import ChangeApply.Decimal.Nearest
import ChangeApply.Decimal.Shortest
import ChangeApply.Pattern.Check

set_option autoImplicit false

namespace ChangeApply.Log

inductive FieldValue where
  | bool (value : Bool)
  | float (value : Float)
  | notANumber
  | uint (value : Nat)
  | int (value : Int)
  | pattern (text : String)
deriving DecidableEq

namespace FieldValue

def parse (text : List Char) : Except Pattern.Fault FieldValue :=
  if text = "true".toList then .ok (.bool true)
  else if text = "false".toList then .ok (.bool false)
  else
    match (Numeral.read? text).filter fun value => value < 0x10000000000000000 with
    | some value => .ok (.uint value)
    | none =>
      match (Numeral.readSigned? text).filter fun value =>
          -0x8000000000000000 ≤ value ∧ value < 0x8000000000000000 with
      | some value => .ok (.int value)
      | none =>
        match Nearest.read? text with
        | some value => .ok (if value.isNaN then .notANumber else .float value)
        | none => (Pattern.check text).map fun _ => .pattern (String.ofList text)

def text : FieldValue → String
  | .bool true => "true"
  | .bool false => "false"
  | .float value => Shortest.text value
  | .notANumber => "NaN"
  | .uint value => Numeral.text value
  | .int value => String.ofList (Numeral.signed value)
  | .pattern text => text

def rank : FieldValue → Nat
  | .bool _ => 0
  | .float _ => 1
  | .notANumber => 2
  | .uint _ => 3
  | .int _ => 4
  | .pattern _ => 5

def order : FieldValue → FieldValue → Ordering
  | .bool left, .bool right => compare left right
  | .float left, .float right =>
    if left < right then .lt else if right < left then .gt else .eq
  | .uint left, .uint right => compare left right
  | .int left, .int right => compare left right
  | .pattern left, .pattern right => compare left right
  | left, right => compare left.rank right.rank

end FieldValue

structure FieldTest where
  name : String
  value : Option FieldValue
deriving DecidableEq

namespace FieldTest

def parse (text : List Char) : Except Pattern.Fault FieldTest :=
  let name := String.ofList (text.takeWhile fun c => c ≠ '=')
  match text.dropWhile fun c => c ≠ '=' with
  | [] => .ok ⟨name, none⟩
  | _ :: rest =>
    (FieldValue.parse (rest.takeWhile fun c => c ≠ '=')).map fun value => ⟨name, some value⟩

def text (test : FieldTest) : String :=
  match test.value with
  | some value => test.name ++ "=" ++ value.text
  | none => test.name

def order (left right : FieldTest) : Ordering :=
  match left.value, right.value with
  | none, some _ => .lt
  | some _, none => .gt
  | none, none => compare left.name right.name
  | some leftValue, some rightValue =>
    (compare left.name right.name).then (leftValue.order rightValue)

end FieldTest

end ChangeApply.Log
