import ChangeApply.Json.Basic
import ChangeApply.Text.Numeral

set_option autoImplicit false

namespace ChangeApply.Json

def hexText (code : Nat) : List Char :=
  let spelled := Nat.toDigits 16 code
  List.replicate (4 - spelled.length) '0' ++ spelled

def escaped (c : Char) : List Char :=
  match c with
  | '"' => ['\\', '"']
  | '\\' => ['\\', '\\']
  | '\n' => ['\\', 'n']
  | '\r' => ['\\', 'r']
  | '\t' => ['\\', 't']
  | '\x08' => ['\\', 'b']
  | '\x0c' => ['\\', 'f']
  | c => if c.toNat < 0x20 then '\\' :: 'u' :: hexText c.toNat else [c]

def quoted : Text → String
  | some text => "\"" ++ String.ofList (text.toList.flatMap escaped) ++ "\""
  | none => "\"\\ud800\""

def Unit16.spell : Unit16 → List Char
  | .char value => escaped value
  | .high code => '\\' :: 'u' :: hexText (0xD800 + code)
  | .low code => '\\' :: 'u' :: hexText (0xDC00 + code)
  | .control value => [value]

def Number.text : Number → String
  | .whole value => String.ofList (Numeral.signed value)
  | .decimal negative coefficient exponent =>
    String.ofList ((if negative then ['-'] else []) ++ Numeral.digits coefficient ++
      'e' :: Numeral.signed exponent)

mutual
def text : Json → String
  | .null => "null"
  | .bool true => "true"
  | .bool false => "false"
  | .number value => value.text
  | .string value => quoted value
  | .ragged units => "\"" ++ String.ofList (units.flatMap Unit16.spell) ++ "\""
  | .array items => "[" ++ String.intercalate "," (itemTexts items) ++ "]"
  | .object members => "\x7b" ++ String.intercalate "," (memberTexts members) ++ "\x7d"
def itemTexts : List Json → List String
  | [] => []
  | item :: rest => text item :: itemTexts rest
def memberTexts : List (Text × Json) → List String
  | [] => []
  | (name, value) :: rest => (quoted name ++ ":" ++ text value) :: memberTexts rest
end

end ChangeApply.Json
