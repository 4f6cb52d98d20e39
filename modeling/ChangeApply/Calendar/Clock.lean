import ChangeApply.Calendar.Date

set_option autoImplicit false

/- Times of day to the nanosecond, and moments: a date with a time. From 1000000000
   nanoseconds on a time is in the leap second after its second, and is written as one
   second more. -/
namespace ChangeApply

structure Time where
  hour : Nat
  minute : Nat
  second : Nat
  nanosecond : Nat
  onClock : hour ≤ 23 ∧ minute ≤ 59 ∧ second ≤ 59 ∧ nanosecond ≤ 1999999999
deriving DecidableEq

structure Moment where
  date : Date
  time : Time
deriving DecidableEq

namespace Time

def shownSecond (time : Time) : Nat :=
  if time.nanosecond < 1000000000 then time.second else time.second + 1

def shownNanosecond (time : Time) : Nat := time.nanosecond % 1000000000

def ofShown? (hour minute second nanosecond : Nat) : Option Time :=
  if shown : hour ≤ 23 ∧ minute ≤ 59 ∧ second ≤ 60 ∧ nanosecond ≤ 999999999 then
    if plain : second ≤ 59 then some ⟨hour, minute, second, nanosecond, by omega⟩
    else some ⟨hour, minute, 59, 1000000000 + nanosecond, by omega⟩
  else none

def fractionText (nanosecond : Nat) : List Char :=
  if nanosecond = 0 then []
  else if nanosecond % 1000000 = 0 then '.' :: Numeral.padded 3 (nanosecond / 1000000)
  else if nanosecond % 1000 = 0 then '.' :: Numeral.padded 6 (nanosecond / 1000)
  else '.' :: Numeral.padded 9 nanosecond

def render (time : Time) : List Char :=
  Numeral.padded 2 time.hour ++ ':' :: Numeral.padded 2 time.minute ++
    ':' :: Numeral.padded 2 time.shownSecond ++ fractionText time.shownNanosecond

def text (time : Time) : String := String.ofList time.render

def fraction : List Char → Option (Nat × List Char)
  | '.' :: rest =>
    let spelled := Numeral.leading rest
    let kept := spelled.take 9
    if spelled.isEmpty then none
    else some (Numeral.value kept * Nat.pow 10 (9 - kept.length), rest.drop spelled.length)
  | text => some (0, text)

def hourAndMinute (text : List Char) : Option (Nat × Nat × List Char) := do
  let (hour, rest) ← Calendar.number 2 text
  let rest ← Calendar.mark ':' rest
  let (minute, rest) ← Calendar.number 2 rest
  return (hour, minute, rest)

def secondAndFraction (text : List Char) : Option (Nat × Nat × List Char) := do
  let rest ← Calendar.mark ':' text
  let (second, rest) ← Calendar.number 2 rest
  let (nanosecond, rest) ← fraction rest
  return (second, nanosecond, rest)

def read (text : String) : Option Time := do
  let (hour, minute, rest) ← hourAndMinute text.toList
  let (second, nanosecond, rest) := (secondAndFraction rest).getD (0, 0, rest)
  if (Blank.skip rest).isEmpty then ofShown? hour minute second nanosecond else none

end Time

namespace Moment

def render (between : Char) (moment : Moment) : List Char :=
  moment.date.render ++ between :: moment.time.render

def text (between : Char) (moment : Moment) : String := String.ofList (moment.render between)

def read (text : String) : Option Moment := do
  let (date, rest) ← Date.scan text.toList
  let rest ← Calendar.mark 'T' rest
  let (hour, minute, rest) ← Time.hourAndMinute rest
  let (second, nanosecond, rest) ← Time.secondAndFraction rest
  let time ← Time.ofShown? hour minute second nanosecond
  if (Blank.skip rest).isEmpty then some ⟨date, time⟩ else none

end Moment

end ChangeApply
