import ChangeApply.Decimal.Nearest

set_option autoImplicit false

/- JSON documents as they are written: members keep their order and may repeat,
   and whole numbers stay apart from numbers with a point or an exponent. -/
namespace ChangeApply

abbrev Json.Text := Option String

-- A part of a JSON string as it is written. A control character is one that is not
-- escaped, which only a string of bytes may hold.
inductive Json.Unit16 where
  | char (value : Char)
  | high (code : Nat)
  | low (code : Nat)
  | control (value : Char)

inductive Json.Number where
  | whole (value : Int)
  | decimal (negative : Bool) (coefficient : Nat) (exponent : Int)
deriving DecidableEq

inductive Json where
  | null
  | bool (value : Bool)
  | number (value : Json.Number)
  | string (text : Json.Text)
  | ragged (units : List Json.Unit16)
  | array (items : List Json)
  | object (members : List (Json.Text × Json))

namespace Json

def ofText (text : String) : Json := .string (some text)

def ofNat (value : Nat) : Json := .number (.whole value)

def ofInt (value : Int) : Json := .number (.whole value)

def record (members : List (String × Json)) : Json :=
  .object (members.map fun member => (some member.1, member.2))

def bool? : Json → Option Bool
  | .bool value => some value
  | _ => none

def text? : Json → Option String
  | .string text => text
  | _ => none

def whole? (low high : Int) : Json → Option Int
  | .number (.whole value) => if low ≤ value ∧ value ≤ high then some value else none
  | _ => none

def natural? (high : Nat) (json : Json) : Option Nat :=
  (json.whole? 0 high).map Int.toNat

def list? {α : Type} (read : Json → Option α) : Json → Option (List α)
  | .array items => items.mapM read
  | _ => none

def nullable? {α : Type} (read : Json → Option α) : Json → Option (Option α)
  | .null => some none
  | json => (read json).map some

end Json

namespace Json.Unit16

def surrogate (code : Nat) : List UInt8 :=
  [237, UInt8.ofNat (128 + code / 64 % 64), UInt8.ofNat (128 + code % 64)]

def octets : List Unit16 → List UInt8
  | [] => []
  | .char c :: rest => String.utf8EncodeChar c ++ octets rest
  | .control c :: rest => String.utf8EncodeChar c ++ octets rest
  | .high first :: .low second :: rest =>
    String.utf8EncodeChar (Char.ofNat (0x10000 + first * 0x400 + second)) ++ octets rest
  | .high first :: rest => surrogate (0xD800 + first) ++ octets rest
  | .low second :: rest => surrogate (0xDC00 + second) ++ octets rest

def isControl : Unit16 → Bool
  | .control _ => true
  | _ => false

end Json.Unit16

namespace Json

mutual
def isSkippable : Json → Bool
  | .ragged units => !units.any Unit16.isControl
  | .array items => areSkippable items
  | .object members => haveSkippable members
  | _ => true
def areSkippable : List Json → Bool
  | [] => true
  | item :: rest => isSkippable item && areSkippable rest
def haveSkippable : List (Text × Json) → Bool
  | [] => true
  | (_, value) :: rest => isSkippable value && haveSkippable rest
end

end Json

namespace Json.Number

def toFloat? : Json.Number → Option Float
  | .whole value => finite (Nearest.ofDecimal (value < 0) value.natAbs 0)
  | .decimal negative coefficient exponent => finite (Nearest.ofDecimal negative coefficient exponent)
where
  finite (value : Float) : Option Float :=
    if value.isInf then none else some value

end Json.Number

end ChangeApply
