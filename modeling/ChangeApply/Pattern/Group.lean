import ChangeApply.Pattern.Basic
import ChangeApply.Text.Alphanumeric

set_option autoImplicit false

namespace ChangeApply.Pattern

inductive Opening where
  | plain
  | named (name : List Char)
  | flagged (flags : Flags)
  | flagsAlone (flags : Flags)

namespace Opening

def isNameChar (c : Char) : Bool :=
  c = '_' || c = '.' || c = '[' || c = ']' || Alphanumeric.isAlphanumeric c

def isName : List Char → Bool
  | [] => false
  | c :: rest => (c = '_' || Alphanumeric.isLetter c) && rest.all isNameChar

def readName? (text : List Char) : Option (Opening × List Char) :=
  let name := text.takeWhile fun c => c ≠ '>'
  match text.drop name.length with
  | _ :: rest => if isName name then some (.named name, rest) else none
  | [] => none

def readFlags? : (seen : List Char) → List Char → Option (List Char × Char × List Char)
  | _, [] => none
  | seen, c :: rest =>
    if c = ':' || c = ')' then
      if seen.head? == some '-' then none else some (seen, c, rest)
    else if "imsUuRx-".toList.contains c && !seen.contains c then readFlags? (c :: seen) rest
    else none

def apply (flags : Flags) (written : List Char) : Flags :=
  let on := written.takeWhile fun c => c ≠ '-'
  let off := written.drop on.length
  off.foldl (fun flags c => flags.set false c) (on.foldl (fun flags c => flags.set true c) flags)

def read? (flags : Flags) (text : List Char) : Option (Opening × List Char) :=
  match skip flags text with
  | '?' :: 'P' :: '<' :: rest => readName? rest
  | '?' :: '<' :: rest => readName? rest
  | '?' :: rest =>
    match readFlags? [] rest with
    | some (written, ':', rest) => some (.flagged (apply flags written.reverse), rest)
    | some ([], _, _) => none
    | some (written, _, rest) => some (.flagsAlone (apply flags written.reverse), rest)
    | none => none
  | rest => some (.plain, rest)

end Opening

end ChangeApply.Pattern
