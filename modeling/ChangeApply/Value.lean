import ChangeApply.Calendar.Clock
import ChangeApply.Decimal.Shortest

set_option autoImplicit false

namespace ChangeApply

inductive Value where
  | null
  | bool (value : Bool)
  | int (value : Int64)
  | uint (value : UInt64)
  | float (value : Float)
  | decimal (text : String)
  | string (text : String)
  | bytes (content : List UInt8)
  | date (value : Date)
  | time (value : Time)
  | moment (value : Moment)
deriving DecidableEq

namespace Value

def isNull : Value → Bool
  | .null => true
  | _ => false

def text : Value → String
  | .null => "null-value"
  | .bool true => "true"
  | .bool false => "false"
  | .int value => String.ofList (Numeral.signed value.toInt)
  | .uint value => Numeral.text value.toNat
  | .float value => Shortest.text value
  | .decimal text => text
  | .string text => text
  | .bytes content => "<" ++ Numeral.text content.length ++ " bytes>"
  | .date value => value.text
  | .time value => value.text
  | .moment value => value.text ' '

def listText (values : List Value) : String := String.intercalate "," (values.map text)

theorem is_null_iff (value : Value) : value.isNull = true ↔ value = .null := by
  cases value <;> simp [isNull]

end Value

end ChangeApply
