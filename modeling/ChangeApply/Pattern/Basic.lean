import ChangeApply.Text.CharRange
import ChangeApply.Text.Numeral

set_option autoImplicit false

/- Patterns are regular expressions over Unicode text. A pattern that would need tables of
   Unicode is refused: one that ignores case or names a class of characters by a letter. -/
namespace ChangeApply.Pattern

inductive Fault where
  | malformed
  | wordBorder
deriving DecidableEq

def Fault.message : Fault → String
  | .malformed => "error building NFA"
  | .wordBorder =>
    "unsupported regex feature for DFAs: cannot build DFAs for regexes with Unicode word boundaries; switch to ASCII word boundaries, or heuristically enable Unicode word boundaries or use a different regex engine"

structure Flags where
  ignoreCase : Bool
  unicode : Bool
  verbose : Bool
deriving DecidableEq

namespace Flags

def initial : Flags := ⟨false, true, false⟩

def set (flags : Flags) (on : Bool) : Char → Flags
  | 'i' => { flags with ignoreCase := on }
  | 'u' => { flags with unicode := on }
  | 'x' => { flags with verbose := on }
  | _ => flags

end Flags

def skipFrom : (inComment : Bool) → List Char → List Char
  | _, [] => []
  | true, c :: rest => skipFrom (c ≠ '\n') rest
  | false, c :: rest =>
    if Blank.isBlank c then skipFrom false rest
    else if c = '#' then skipFrom true rest
    else c :: rest

def skip (flags : Flags) (text : List Char) : List Char :=
  if flags.verbose then skipFrom false text else text

inductive Atom where
  | literal (c : Char) (isByte : Bool)
  | shorthand (negated : Bool)
  | anchor
  | wordBorder
deriving DecidableEq

namespace Atom

def readCode? (flags : Flags) : (digits code : Nat) → List Char → Option (Nat × List Char)
  | 0, code, text => some (code, text)
  | digits + 1, code, text =>
    match skip flags text with
    | [] => none
    | c :: rest =>
      match Numeral.hexDigit? c with
      | some digit => readCode? flags digits (16 * code + digit) rest
      | none => none

def readCoded? (flags : Flags) (digits : Nat) (text : List Char) : Option (Atom × List Char) :=
  match readCode? flags digits 0 text with
  | some (code, rest) =>
    if code.isValidChar then some (.literal (Char.ofNat code) (digits = 2), rest) else none
  | none => none

def ofLetter? : Char → Option Atom
  | 'a' => some (.literal '\x07' false)
  | 't' => some (.literal '\t' false)
  | 'n' => some (.literal '\n' false)
  | 'v' => some (.literal '\x0B' false)
  | 'f' => some (.literal '\x0C' false)
  | 'r' => some (.literal '\r' false)
  | 'd' | 's' | 'w' => some (.shorthand false)
  | 'D' | 'S' | 'W' => some (.shorthand true)
  | 'A' | 'z' => some .anchor
  | 'b' | 'B' | '<' | '>' => some .wordBorder
  | c => if c.toNat < 0x80 && !c.isAlphanum then some (.literal c false) else none

def readEscaped? (flags : Flags) : List Char → Option (Atom × List Char)
  | [] => none
  | 'x' :: rest => readCoded? flags 2 rest
  | 'u' :: rest => readCoded? flags 4 rest
  | 'U' :: rest => readCoded? flags 8 rest
  | c :: rest => (ofLetter? c).map fun atom => (atom, rest)

def read? (flags : Flags) : List Char → Option (Atom × List Char)
  | [] => none
  | '\\' :: rest => readEscaped? flags rest
  | c :: rest => some (.literal c false, rest)

-- Without the Unicode flag a pattern is about bytes, and may not match half a character.
def isAllowed (flags : Flags) : Atom → Bool
  | .literal c isByte => if flags.unicode then !flags.ignoreCase else !isByte || c.toNat < 0x80
  | .shorthand negated => !flags.unicode && !negated
  | .anchor => true
  | .wordBorder => true

def isAllowedInClass (flags : Flags) : Atom → Bool
  | .literal c _ => if flags.unicode then !flags.ignoreCase else c.toNat < 0x80
  | .shorthand negated => !flags.unicode && !negated
  | .anchor => false
  | .wordBorder => false

end Atom

def nodeHeight : List Nat → Nat
  | [] => 0
  | [height] => height
  | heights => heights.foldl max 0 + 1

end ChangeApply.Pattern
