import ChangeApply.Text.Numeral

set_option autoImplicit false

namespace ChangeApply.Nearest

def ofDecimal (negative : Bool) (coefficient : Nat) (exponent : Int) : Float :=
  let places := (coefficient.log2 : Int) / 3 + exponent
  let size :=
    if coefficient = 0 ∨ places < -400 then 0.0
    else if 400 < exponent then 1.0 / 0.0
    else Float.ofScientific coefficient (exponent < 0) exponent.natAbs
  if negative then -size else size

def readExponent? : List Char → Option Int
  | [] => some 0
  | c :: rest => if c = 'e' ∨ c = 'E' then Numeral.readSigned? rest else none

def readDecimal? (negative : Bool) (text : List Char) : Option Float :=
  let whole := Numeral.leading text
  let rest := text.drop whole.length
  let fraction := match rest with
    | '.' :: rest => Numeral.leading rest
    | _ => []
  let rest := match rest with
    | '.' :: rest => rest.drop fraction.length
    | rest => rest
  if (whole ++ fraction).isEmpty then none
  else
    (readExponent? rest).map fun exponent =>
      ofDecimal negative (Numeral.value (whole ++ fraction)) (exponent - fraction.length)

def readUnsigned? (negative : Bool) (text : List Char) : Option Float :=
  let word := String.ofList (text.map Char.toLower)
  if word = "nan" then some (0.0 / 0.0)
  else if word = "inf" || word = "infinity" then some (if negative then -1.0 / 0.0 else 1.0 / 0.0)
  else readDecimal? negative text

def read? : List Char → Option Float
  | '-' :: rest => readUnsigned? true rest
  | '+' :: rest => readUnsigned? false rest
  | text => readUnsigned? false text

end ChangeApply.Nearest
