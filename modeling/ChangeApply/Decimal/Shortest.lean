import ChangeApply.Text.Numeral

set_option autoImplicit false

/- The shortest decimal text of a double: the fewest digits that read back as the
   same double, always written positionally. -/
namespace ChangeApply.Shortest

structure Binary where
  mantissa : Nat
  exponent : Int
  -- The gap to the double below is half the gap to the one above.
  narrowBelow : Bool

structure Decimal where
  coefficient : Nat
  exponent : Int

def ofBits (bits : UInt64) : Binary :=
  let biased := (bits >>> 52).toNat % 2048
  let fraction := bits.toNat % 0x10000000000000
  if biased = 0 then ⟨fraction, -1074, false⟩
  else ⟨fraction + 0x10000000000000, (biased : Int) - 1075, fraction = 0 ∧ 1 < biased⟩

def scale (exponent place : Int) : Nat × Nat :=
  (Nat.pow 2 exponent.toNat * Nat.pow 10 (-place).toNat, Nat.pow 2 (-exponent).toNat * Nat.pow 10 place.toNat)

-- Whether `coefficient * 10 ^ place` reads back as the double. Bounds are taken in
-- quarters of the mantissa's unit; the ends count for an even mantissa.
def readsBack (binary : Binary) (place : Int) (coefficient : Nat) : Bool :=
  let (up, down) := scale (binary.exponent - 2) place
  let low := (4 * binary.mantissa - (if binary.narrowBelow then 1 else 2)) * up
  let high := (4 * binary.mantissa + 2) * up
  let point := coefficient * down
  if binary.mantissa % 2 = 0 then low ≤ point && point ≤ high else low < point && point < high

def nearestOn (binary : Binary) (place : Int) : Option Nat :=
  let (up, down) := scale binary.exponent place
  let exact := binary.mantissa * up
  let below := exact / down
  let above := below + 1
  let belowFits := 0 < below && readsBack binary place below
  let aboveFits := readsBack binary place above
  if belowFits && aboveFits then
    some (if exact - below * down < above * down - exact then below else above)
  else if belowFits then some below
  else if aboveFits then some above
  else none

def search (binary : Binary) : Nat → Int → Decimal
  | 0, place => ⟨0, place⟩
  | steps + 1, place =>
    match nearestOn binary place with
    | some coefficient => ⟨coefficient, place⟩
    | none => search binary steps (place - 1)

def topPlace (binary : Binary) : Int :=
  ((Nat.log2 binary.mantissa : Int) + 1 + binary.exponent) * 30103 / 100000 + 1

def shortest (binary : Binary) : Decimal := search binary 40 (topPlace binary)

def positional (decimal : Decimal) : List Char :=
  let spelled := Numeral.digits decimal.coefficient
  if 0 ≤ decimal.exponent then spelled ++ List.replicate decimal.exponent.toNat '0'
  else
    let places := (-decimal.exponent).toNat
    if places < spelled.length then
      spelled.take (spelled.length - places) ++ '.' :: spelled.drop (spelled.length - places)
    else '0' :: '.' :: List.replicate (places - spelled.length) '0' ++ spelled

def text (number : Float) : String :=
  let bits := number.toBits
  let negative := bits >>> 63 = 1
  let magnitude := bits.toNat % 0x8000000000000000
  if magnitude > 0x7FF0000000000000 then "NaN"
  else if magnitude = 0x7FF0000000000000 then (if negative then "-inf" else "inf")
  else
    let body := if magnitude = 0 then ['0'] else positional (shortest (ofBits bits))
    String.ofList (if negative then '-' :: body else body)

end ChangeApply.Shortest
