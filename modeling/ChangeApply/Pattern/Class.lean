import ChangeApply.Pattern.Basic

set_option autoImplicit false

namespace ChangeApply.Pattern

def asciiClasses : List String :=
  ["alnum", "alpha", "ascii", "blank", "cntrl", "digit", "graph", "lower", "print", "punct",
   "space", "upper", "word", "xdigit"]

def readAscii? : List Char → Option (Bool × List Char)
  | ':' :: text =>
    let (negated, text) := match text with
      | '^' :: rest => (true, rest)
      | text => (false, text)
    let name := text.takeWhile fun c => c ≠ ':'
    match text.drop name.length with
    | ':' :: ']' :: rest =>
      if asciiClasses.contains (String.ofList name) then some (negated, rest) else none
    | _ => none
  | _ => none

structure OpenClass where
  negated : Bool
  opening : Bool
  left : Option Nat
  items : List Nat

namespace OpenClass

def start (flags : Flags) (text : List Char) : OpenClass × List Char :=
  match skip flags text with
  | '^' :: rest => (⟨true, true, none, []⟩, rest)
  | rest => (⟨false, true, none, []⟩, rest)

def height (current : OpenClass) : Nat :=
  match current.left with
  | none => nodeHeight current.items
  | some left => max left (nodeHeight current.items) + 1

def add (current : OpenClass) (height : Nat) : OpenClass :=
  { current with opening := false, items := height :: current.items }

def operate (current : OpenClass) : OpenClass :=
  { current with opening := false, left := some current.height, items := [] }

end OpenClass

-- Whether a dash before this text stands between the ends of a range. A number sign is
-- passed over here together with the blanks, but not the comment behind it.
def joins (flags : Flags) (text : List Char) : Bool :=
  let next := if flags.verbose then
      match Blank.skip text with
      | '#' :: rest => Blank.skip rest
      | rest => rest
    else text
  match next with
  | ']' :: _ => false
  | '-' :: _ => false
  | _ => true

def readMember? (flags : Flags) (text : List Char) : Option (List Char) := do
  let (first, rest) ← Atom.read? flags text
  guard (first.isAllowedInClass flags)
  match skip flags rest with
  | '-' :: after =>
    if joins flags after then
      let (last, rest) ← Atom.read? flags (skip flags after)
      guard (last.isAllowedInClass flags)
      match first, last with
      | .literal low _, .literal high _ => if low ≤ high then some rest else none
      | _, _ => none
    else some rest
  | _ => some rest

def readClassWithin (flags : Flags) :
    Nat → OpenClass → List OpenClass → List Char → Option (Nat × List Char)
  | 0, _, _, _ => none
  | fuel + 1, current, outer, text =>
    match skip flags text with
    | [] => none
    | '[' :: rest =>
      match readAscii? rest with
      | some (negated, rest) =>
        if if flags.unicode then flags.ignoreCase else negated then none
        else readClassWithin flags fuel (current.add 0) outer rest
      | none =>
        let (inner, rest) := OpenClass.start flags rest
        readClassWithin flags fuel inner (current :: outer) rest
    | '&' :: '&' :: rest => readClassWithin flags fuel current.operate outer rest
    | '~' :: '~' :: rest => readClassWithin flags fuel current.operate outer rest
    | c :: rest =>
      if current.opening && (c = '-' || c = ']' && current.items.isEmpty) then
        if (Atom.literal c false).isAllowedInClass flags then
          let current := current.add 0
          readClassWithin flags fuel { current with opening := c = '-' } outer rest
        else none
      else if c = ']' then
        if current.negated && !flags.unicode then none
        else
          match outer with
          | [] => some (current.height + 1, rest)
          | next :: outer => readClassWithin flags fuel (next.add (current.height + 1)) outer rest
      else if c = '-' && rest.head? == some '-' then
        readClassWithin flags fuel current.operate outer (rest.drop 1)
      else
        match readMember? flags (c :: rest) with
        | some rest => readClassWithin flags fuel (current.add 0) outer rest
        | none => none

def readClass? (flags : Flags) (text : List Char) : Option (Nat × List Char) :=
  let (current, rest) := OpenClass.start flags text
  readClassWithin flags (text.length + 1) current [] rest

end ChangeApply.Pattern
