import ChangeApply.Json.Token

set_option autoImplicit false

/- All the ways to write the tokens of a JSON text, without a word on how they are read.
   Blanks may stand before any token and after the last, and a letter of a string may
   be escaped or not. -/
namespace ChangeApply.Json

def Digits (spelled : List Char) : Prop := spelled ≠ [] ∧ ∀ c ∈ spelled, c.isDigit = true

def WholeDigits (spelled : List Char) : Prop :=
  spelled = ['0'] ∨ Digits spelled ∧ spelled.head? ≠ some '0'

inductive Fraction : List Char → List Char → Prop
  | none : Fraction [] []
  | point (digits : List Char) (spelled : Digits digits) : Fraction digits ('.' :: digits)

inductive Exponent : Option Int → List Char → Prop
  | none : Exponent none []
  | plain (mark : Char) (digits : List Char) (marked : mark = 'e' ∨ mark = 'E') (spelled : Digits digits) :
    Exponent (some (Numeral.value digits : Int)) (mark :: digits)
  | positive (mark : Char) (digits : List Char) (marked : mark = 'e' ∨ mark = 'E') (spelled : Digits digits) :
    Exponent (some (Numeral.value digits : Int)) (mark :: '+' :: digits)
  | negative (mark : Char) (digits : List Char) (marked : mark = 'e' ∨ mark = 'E') (spelled : Digits digits) :
    Exponent (some (-(Numeral.value digits : Int))) (mark :: '-' :: digits)

def sign (negative : Bool) : List Char := if negative then ['-'] else []

-- What has a point or an exponent is no whole number, and neither is minus zero.
def Number.ofParts (negative : Bool) (digits fraction : List Char) (exponent : Option Int) : Number :=
  let size := Numeral.value (digits ++ fraction)
  if fraction = [] ∧ exponent = none ∧ ¬ (negative = true ∧ size = 0) then
    .whole (if negative then -(size : Int) else size)
  else .decimal negative size (exponent.getD 0 - fraction.length)

inductive Number.Written : Number → List Char → Prop
  | parts (negative : Bool) (digits fraction point mark : List Char) (exponent : Option Int)
      (whole : WholeDigits digits) (fractional : Fraction fraction point) (scaled : Exponent exponent mark) :
    Written (ofParts negative digits fraction exponent) (sign negative ++ (digits ++ (point ++ mark)))

inductive Unit16.Written : Unit16 → List Char → Prop
  | plain (c : Char) (quote : c ≠ '"') (backslash : c ≠ '\\') (visible : ¬ c.toNat < 0x20) :
    Written (.char c) [c]
  | short (c letter : Char) (known : escape? c = some letter) : Written (.char letter) ['\\', c]
  | code (a b c d : Char) (w x y z : Nat)
      (digits : [a, b, c, d].mapM Numeral.hexDigit? = some [w, x, y, z]) :
    Written (.ofCode (((w * 16 + x) * 16 + y) * 16 + z)) ['\\', 'u', a, b, c, d]

inductive Body : List Unit16 → List Char → Prop
  | nil : Body [] []
  | cons (unit : Unit16) (units : List Unit16) (spelled body : List Char)
      (first : unit.Written spelled) (later : Body units body) :
    Body (unit :: units) (spelled ++ body)

inductive StandsFor : List Unit16 → List Char → Prop
  | nil : StandsFor [] []
  | char (c : Char) (units : List Unit16) (text : List Char) (later : StandsFor units text) :
    StandsFor (.char c :: units) (c :: text)
  | pair (high low : Nat) (units : List Unit16) (text : List Char) (later : StandsFor units text) :
    StandsFor (.high high :: .low low :: units) (Char.ofNat (0x10000 + high * 0x400 + low) :: text)

def Text.Written (text : Text) (spelled : List Char) : Prop :=
  ∃ units body, Body units body ∧ spelled = '"' :: body ++ ['"'] ∧
    ∀ letters, text = some (String.ofList letters) ↔ StandsFor units letters

namespace Token

def Written : Token → List Char → Prop
  | .openArray, spelled => spelled = ['[']
  | .closeArray, spelled => spelled = [']']
  | .openObject, spelled => spelled = ['{']
  | .closeObject, spelled => spelled = ['}']
  | .comma, spelled => spelled = [',']
  | .colon, spelled => spelled = [':']
  | .null, spelled => spelled = ['n', 'u', 'l', 'l']
  | .bool true, spelled => spelled = ['t', 'r', 'u', 'e']
  | .bool false, spelled => spelled = ['f', 'a', 'l', 's', 'e']
  | .number value, spelled => value.Written spelled
  | .string text, spelled => Text.Written text spelled
  | .ragged _, _ => False

def Blanks (text : List Char) : Prop := ∀ c ∈ text, isSpace c = true

inductive Spaced : List Token → List Char → Prop
  | nil (blanks : List Char) (blank : Blanks blanks) : Spaced [] blanks
  | cons (token : Token) (rest : List Token) (blanks spelled text : List Char) (blank : Blanks blanks)
      (first : token.Written spelled) (later : Spaced rest text) :
    Spaced (token :: rest) (blanks ++ spelled ++ text)

end Token

end ChangeApply.Json
