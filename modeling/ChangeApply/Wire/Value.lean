import ChangeApply.Value
import ChangeApply.Wire.Record

set_option autoImplicit false

namespace ChangeApply.Value

def bytesOfJson? : Json → Option (List UInt8)
  | .string (some text) => some text.toUTF8.data.toList
  | .ragged units => some (Json.Unit16.octets units)
  | json => json.list? fun item => (item.natural? 255).map UInt8.ofNat

def floatOfJson? : Json → Option Float
  | .number number => number.toFloat?
  | _ => none

-- A float is written as its text, which holds every double, and read as a number.
def toJson : Value → Json
  | .null => Json.ofText "Null"
  | .bool value => Wire.tagged "Bool" (.bool value)
  | .int value => Wire.tagged "Int" (Json.ofInt value.toInt)
  | .uint value => Wire.tagged "UInt" (Json.ofNat value.toNat)
  | .float value => Wire.tagged "Float" (Json.ofText (Shortest.text value))
  | .decimal text => Wire.tagged "Decimal" (Json.ofText text)
  | .string text => Wire.tagged "String" (Json.ofText text)
  | .bytes content => Wire.tagged "Bytes" (.array (content.map fun byte => Json.ofNat byte.toNat))
  | .date value => Wire.tagged "Date" (Json.ofText value.text)
  | .time value => Wire.tagged "Time" (Json.ofText value.text)
  | .moment value => Wire.tagged "DateTime" (Json.ofText (value.text 'T'))

def ofVariant? : String → Option Json → Option Value
  | "Null", content => if Wire.bare content then some .null else none
  | "Bool", some content => content.bool?.map .bool
  | "Int", some content =>
    (content.whole? (-9223372036854775808) 9223372036854775807).map fun value =>
      .int (Int64.ofInt value)
  | "UInt", some content =>
    (content.natural? 18446744073709551615).map fun value => .uint (UInt64.ofNat value)
  | "Float", some content => (floatOfJson? content).map .float
  | "Decimal", some content => content.text?.map .decimal
  | "String", some content => content.text?.map .string
  | "Bytes", some content => (bytesOfJson? content).map .bytes
  | "Date", some content => (content.text?.bind Date.read).map .date
  | "Time", some content => (content.text?.bind Time.read).map .time
  | "DateTime", some content => (content.text?.bind Moment.read).map .moment
  | _, _ => none

def ofJson? (json : Json) : Option Value :=
  match Wire.variant? json with
  | some (name, content) => ofVariant? name content
  | none => none

end ChangeApply.Value
