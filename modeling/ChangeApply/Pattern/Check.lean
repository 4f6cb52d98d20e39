import ChangeApply.Pattern.Class
import ChangeApply.Pattern.Group

set_option autoImplicit false

/- Whether a text is a pattern. Counted repetition is no part of patterns here: a field
   ends before the brace that would close the count. -/
namespace ChangeApply.Pattern

structure Item where
  height : Nat
  isRepeatable : Bool

structure OpenGroup where
  items : List Item
  branches : List Nat
  outside : Flags

namespace OpenGroup

def start (outside : Flags) : OpenGroup := ⟨[], [], outside⟩

def branchHeight (group : OpenGroup) : Nat := nodeHeight (group.items.map Item.height)

def height (group : OpenGroup) : Nat := nodeHeight (group.branchHeight :: group.branches)

def add (group : OpenGroup) (height : Nat) : OpenGroup :=
  { group with items := ⟨height, true⟩ :: group.items }

def nextBranch (group : OpenGroup) : OpenGroup :=
  { group with items := [], branches := group.branchHeight :: group.branches }

def repeatLast? (group : OpenGroup) : Option OpenGroup :=
  match group.items with
  | ⟨height, true⟩ :: items => some { group with items := ⟨height + 1, true⟩ :: items }
  | _ => none

end OpenGroup

structure Progress where
  flags : Flags
  names : List (List Char)
  hasWordBorder : Bool
  group : OpenGroup
  outer : List OpenGroup

namespace Progress

def start : Progress := ⟨.initial, [], false, .start .initial, []⟩

def add (progress : Progress) (height : Nat) : Progress :=
  { progress with group := progress.group.add height }

def addAtom? (progress : Progress) (atom : Atom) : Option Progress :=
  if atom.isAllowed progress.flags then
    let isBorder := progress.flags.unicode && atom = .wordBorder
    some { progress.add 0 with hasWordBorder := progress.hasWordBorder || isBorder }
  else none

def enter (progress : Progress) (flags : Flags) : Progress :=
  { progress with
    flags := flags
    group := .start progress.flags
    outer := progress.group :: progress.outer }

def open? (progress : Progress) : Opening → Option Progress
  | .plain => some (progress.enter progress.flags)
  | .named name =>
    if progress.names.contains name then none
    else some { progress.enter progress.flags with names := name :: progress.names }
  | .flagged flags => some (progress.enter flags)
  | .flagsAlone flags =>
    let items := ⟨0, false⟩ :: progress.group.items
    some { progress with flags := flags, group := { progress.group with items := items } }

def close? (progress : Progress) : Option Progress :=
  match progress.outer with
  | [] => none
  | group :: outer =>
    some { progress with
      flags := progress.group.outside
      group := group.add (progress.group.height + 1)
      outer := outer }

def step? (progress : Progress) : List Char → Option (Progress × List Char)
  | [] => none
  | '(' :: rest => do
    let (opening, rest) ← Opening.read? progress.flags rest
    return (← progress.open? opening, rest)
  | ')' :: rest => progress.close?.map fun progress => (progress, rest)
  | '|' :: rest => some ({ progress with group := progress.group.nextBranch }, rest)
  | '[' :: rest => do
    let (height, rest) ← readClass? progress.flags rest
    return (progress.add height, rest)
  | '{' :: _ => none
  | '^' :: rest => some (progress.add 0, rest)
  | '$' :: rest => some (progress.add 0, rest)
  | '.' :: rest => if progress.flags.unicode then some (progress.add 0, rest) else none
  | c :: rest =>
    if c = '*' || c = '+' || c = '?' then
      let rest := if rest.head? == some '?' then rest.drop 1 else rest
      progress.group.repeatLast?.map fun group => ({ progress with group := group }, rest)
    else do
      let (atom, rest) ← Atom.read? progress.flags (c :: rest)
      return (← progress.addAtom? atom, rest)

def run : Nat → Progress → List Char → Option Progress
  | 0, _, _ => none
  | fuel + 1, progress, text =>
    match skip progress.flags text with
    | [] => some progress
    | text =>
      match progress.step? text with
      | some (progress, rest) => run fuel progress rest
      | none => none

end Progress

def heightLimit : Nat := 250

def check (text : List Char) : Except Fault Unit :=
  match Progress.run (text.length + 1) .start text with
  | none => .error .malformed
  | some progress =>
    if !progress.outer.isEmpty || heightLimit < progress.group.height then .error .malformed
    else if progress.hasWordBorder then .error .wordBorder
    else .ok ()

end ChangeApply.Pattern
