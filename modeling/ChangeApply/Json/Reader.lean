import ChangeApply.Json.Token

set_option autoImplicit false

namespace ChangeApply.Json

-- The items before the current one, last first, and for an object the current name.
inductive Open where
  | array (done : List Json)
  | object (done : List (Text × Json)) (name : Text)

def assemble : List Open → Option Json → List Token → Option Json
  | stack, none, .null :: rest => assemble stack (some .null) rest
  | stack, none, .bool value :: rest => assemble stack (some (.bool value)) rest
  | stack, none, .number value :: rest => assemble stack (some (.number value)) rest
  | stack, none, .string text :: rest => assemble stack (some (.string text)) rest
  | stack, none, .ragged units :: rest => assemble stack (some (.ragged units)) rest
  | stack, none, .openArray :: .closeArray :: rest => assemble stack (some (.array [])) rest
  | stack, none, .openArray :: rest => assemble (.array [] :: stack) none rest
  | stack, none, .openObject :: .closeObject :: rest => assemble stack (some (.object [])) rest
  | stack, none, .openObject :: .string name :: .colon :: rest =>
    assemble (.object [] name :: stack) none rest
  | .array done :: stack, some item, .comma :: rest =>
    assemble (.array (item :: done) :: stack) none rest
  | .array done :: stack, some item, .closeArray :: rest =>
    assemble stack (some (.array (item :: done).reverse)) rest
  | .object done name :: stack, some item, .comma :: .string next :: .colon :: rest =>
    assemble (.object ((name, item) :: done) next :: stack) none rest
  | .object done name :: stack, some item, .closeObject :: rest =>
    assemble stack (some (.object ((name, item) :: done).reverse)) rest
  | [], some document, [] => some document
  | _, _, _ => none

def read (text : String) : Option Json := do
  let tokens ← Token.scan false text.toList
  assemble [] none tokens

def readLoosely (text : String) : Option Json := do
  let tokens ← Token.scan true text.toList
  assemble [] none (Token.nameTexts tokens)

def mergeMember (name : Text) (value : Json) : List (Text × Json) → List (Text × Json)
  | [] => [(name, value)]
  | member :: rest =>
    if member.1 = name then (name, value) :: rest else member :: mergeMember name value rest

mutual
def lastMembers : Json → Json
  | .array items => .array (lastMembersOfItems items)
  | .object members => .object (lastMembersOf members [])
  | json => json
def lastMembersOfItems : List Json → List Json
  | [] => []
  | item :: rest => lastMembers item :: lastMembersOfItems rest
def lastMembersOf : List (Text × Json) → List (Text × Json) → List (Text × Json)
  | [], done => done
  | (name, value) :: rest, done => lastMembersOf rest (mergeMember name (lastMembers value) done)
end

end ChangeApply.Json
