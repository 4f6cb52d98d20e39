import ChangeApply.Text.CharRange
import ChangeApply.Text.Numeral

set_option autoImplicit false

namespace ChangeApply

namespace Calendar

def isLeap (year : Int) : Bool :=
  year % 4 == 0 && (year % 100 != 0 || year % 400 == 0)

def daysIn (year : Int) (month : Nat) : Nat :=
  if month = 2 then (if isLeap year then 29 else 28)
  else if month = 4 ∨ month = 6 ∨ month = 9 ∨ month = 11 then 30
  else 31

def Exists (year : Int) (month day : Nat) : Prop :=
  -262143 ≤ year ∧ year ≤ 262142 ∧ 1 ≤ month ∧ month ≤ 12 ∧ 1 ≤ day ∧ day ≤ daysIn year month

instance (year : Int) (month day : Nat) : Decidable (Exists year month day) := by
  unfold Exists
  infer_instance

end Calendar

structure Date where
  year : Int
  month : Nat
  day : Nat
  onCalendar : Calendar.Exists year month day
deriving DecidableEq

namespace Date

def ofParts? (year : Int) (month day : Nat) : Option Date :=
  if onCalendar : Calendar.Exists year month day then some ⟨year, month, day, onCalendar⟩ else none

def yearText (year : Int) : List Char :=
  if 0 ≤ year ∧ year ≤ 9999 then Numeral.padded 4 year.natAbs
  else (if year < 0 then '-' else '+') :: Numeral.padded 4 year.natAbs

def render (date : Date) : List Char :=
  yearText date.year ++ '-' :: Numeral.padded 2 date.month ++ '-' :: Numeral.padded 2 date.day

def text (date : Date) : String := String.ofList date.render

end Date

namespace Calendar

def number (width : Nat) (text : List Char) : Option (Nat × List Char) :=
  let body := Blank.skip text
  let spelled := Numeral.leading (body.take width)
  if spelled.isEmpty then none else some (Numeral.value spelled, body.drop spelled.length)

def unbounded (text : List Char) : Option (Nat × List Char) :=
  let spelled := Numeral.leading text
  if spelled.isEmpty then none else some (Numeral.value spelled, text.drop spelled.length)

def year (text : List Char) : Option (Int × List Char) :=
  match Blank.skip text with
  | '-' :: rest => (unbounded rest).map fun found => (-(found.1 : Int), found.2)
  | '+' :: rest => (unbounded rest).map fun found => ((found.1 : Int), found.2)
  | body => (number 4 body).map fun found => ((found.1 : Int), found.2)

def mark (expected : Char) (text : List Char) : Option (List Char) :=
  match Blank.skip text with
  | [] => none
  | c :: rest => if c = expected then some rest else none

end Calendar

namespace Date

def scan (text : List Char) : Option (Date × List Char) := do
  let (year, rest) ← Calendar.year text
  let rest ← Calendar.mark '-' rest
  let (month, rest) ← Calendar.number 2 rest
  let rest ← Calendar.mark '-' rest
  let (day, rest) ← Calendar.number 2 rest
  let date ← ofParts? year month day
  return (date, rest)

def read (text : String) : Option Date := do
  let (date, rest) ← scan text.toList
  if (Blank.skip rest).isEmpty then some date else none

end Date

end ChangeApply
