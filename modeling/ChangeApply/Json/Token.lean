import ChangeApply.Json.Basic
import ChangeApply.Text.Numeral

set_option autoImplicit false

namespace ChangeApply.Json

inductive Token where
  | openArray
  | closeArray
  | openObject
  | closeObject
  | comma
  | colon
  | null
  | bool (value : Bool)
  | number (value : Number)
  | string (text : Text)
  | ragged (units : List Unit16)

def isSpace (c : Char) : Bool := c = ' ' || c = '\t' || c = '\n' || c = '\r'

def Unit16.ofCode (code : Nat) : Unit16 :=
  if 0xD800 ≤ code ∧ code < 0xDC00 then .high (code - 0xD800)
  else if 0xDC00 ≤ code ∧ code < 0xE000 then .low (code - 0xDC00)
  else .char (Char.ofNat code)

def pairUp : List Unit16 → List Char → Option (List Char)
  | [], done => some done.reverse
  | .char c :: rest, done => pairUp rest (c :: done)
  | .high first :: .low second :: rest, done =>
    pairUp rest (Char.ofNat (0x10000 + first * 0x400 + second) :: done)
  | _, _ => none

def escape? : Char → Option Char
  | '"' => some '"'
  | '\\' => some '\\'
  | '/' => some '/'
  | 'b' => some '\x08'
  | 'f' => some '\x0C'
  | 'n' => some '\n'
  | 'r' => some '\r'
  | 't' => some '\t'
  | _ => none

def stringBody (loose : Bool) : List Char → List Unit16 → Option (List Unit16 × List Char)
  | '"' :: rest, done => some (done.reverse, rest)
  | '\\' :: 'u' :: a :: b :: c :: d :: rest, done =>
    match [a, b, c, d].mapM Numeral.hexDigit? with
    | some [a, b, c, d] =>
      stringBody loose rest (.ofCode (((a * 16 + b) * 16 + c) * 16 + d) :: done)
    | _ => none
  | '\\' :: c :: rest, done =>
    match escape? c with
    | some plain => stringBody loose rest (.char plain :: done)
    | none => none
  | c :: rest, done =>
    if c.toNat < 0x20 then
      if loose then stringBody loose rest (.control c :: done) else none
    else stringBody loose rest (.char c :: done)
  | [], _ => none

def fractionDigits : List Char → Option (List Char × List Char)
  | '.' :: rest =>
    let spelled := Numeral.leading rest
    if spelled.isEmpty then none else some (spelled, rest.drop spelled.length)
  | rest => some ([], rest)

def exponentDigits (negative : Bool) (rest : List Char) : Option (Option Int × List Char) :=
  let spelled := Numeral.leading rest
  let size : Int := Numeral.value spelled
  if spelled.isEmpty then none
  else some (some (if negative then -size else size), rest.drop spelled.length)

def exponentPart : List Char → Option (Option Int × List Char)
  | c :: rest =>
    if c = 'e' ∨ c = 'E' then
      match rest with
      | '-' :: rest => exponentDigits true rest
      | '+' :: rest => exponentDigits false rest
      | rest => exponentDigits false rest
    else some (none, c :: rest)
  | [] => some (none, [])

def wholeDigits : List Char → Option (List Char × List Char)
  | '0' :: rest => some (['0'], rest)
  | rest =>
    let spelled := Numeral.leading rest
    if spelled.isEmpty then none else some (spelled, rest.drop spelled.length)

def scanUnsigned (negative : Bool) (text : List Char) : Option (Number × List Char) := do
  let (whole, rest) ← wholeDigits text
  let (fraction, rest) ← fractionDigits rest
  let (exponent, rest) ← exponentPart rest
  let size := Numeral.value (whole ++ fraction)
  if fraction.isEmpty && exponent.isNone && !(negative && size = 0) then
    return (.whole (if negative then -(size : Int) else size), rest)
  else
    return (.decimal negative size (exponent.getD 0 - fraction.length), rest)

def scanNumber : List Char → Option (Number × List Char)
  | '-' :: rest => scanUnsigned true rest
  | text => scanUnsigned false text

namespace Token

-- A strict text has no use for a string that stands for no text, of which a loose one may
-- want the bytes.
def ofUnits (loose : Bool) (units : List Unit16) : Token :=
  match loose, pairUp units [] with
  | true, none => .ragged units
  | _, letters => .string (letters.map String.ofList)

theorem of_units_strict (units : List Unit16) :
    ofUnits false units = .string ((pairUp units []).map String.ofList) := rfl

def first? (loose : Bool) : List Char → Option (Token × List Char)
  | '[' :: rest => some (.openArray, rest)
  | ']' :: rest => some (.closeArray, rest)
  | '{' :: rest => some (.openObject, rest)
  | '}' :: rest => some (.closeObject, rest)
  | ',' :: rest => some (.comma, rest)
  | ':' :: rest => some (.colon, rest)
  | 'n' :: 'u' :: 'l' :: 'l' :: rest => some (.null, rest)
  | 't' :: 'r' :: 'u' :: 'e' :: rest => some (.bool true, rest)
  | 'f' :: 'a' :: 'l' :: 's' :: 'e' :: rest => some (.bool false, rest)
  | '"' :: rest =>
    (stringBody loose rest []).map fun found => (ofUnits loose found.1, found.2)
  | text => (scanNumber text).map fun found => (.number found.1, found.2)

def scanWithin (loose : Bool) : Nat → List Char → List Token → Option (List Token)
  | _, [], done => some done.reverse
  | 0, _ :: _, _ => none
  | fuel + 1, c :: rest, done =>
    if isSpace c then scanWithin loose fuel rest done
    else
      match first? loose (c :: rest) with
      | some (token, rest) => scanWithin loose fuel rest (token :: done)
      | none => none

-- Each token takes at least one character, so the length of the text is fuel enough.
def scan (loose : Bool) (text : List Char) : Option (List Token) :=
  scanWithin loose text.length text []

-- Names are texts also in a loose text, but half of a pair makes a name of no text.
def nameTexts : List Token → List Token
  | .ragged units :: .colon :: rest =>
    (if units.any Unit16.isControl then .ragged units else .string none) :: .colon :: nameTexts rest
  | token :: rest => token :: nameTexts rest
  | [] => []

end Token

end ChangeApply.Json
