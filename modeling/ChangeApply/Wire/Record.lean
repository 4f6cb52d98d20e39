import ChangeApply.Json.Basic

set_option autoImplicit false

/- Records and variants as JSON. A record is an object, or the array of its fields
   in order; fields that it does not know are ignored. A variant is its bare name, or
   an object whose one member is named for it. -/
namespace ChangeApply.Wire

abbrev Fields := List (String × Json)

-- A name that is no text spoils the record, and so does a control character in what is
-- passed over.
def knownMembers (names : List String) : List (Json.Text × Json) → Option Fields
  | [] => some []
  | (none, _) :: _ => none
  | (some name, value) :: rest =>
    if names.contains name then
      (knownMembers names rest).map fun fields => (name, value) :: fields
    else if value.isSkippable then knownMembers names rest
    else none

-- A repeated known field is refused, and so is an array longer than the record.
def fields? (names : List String) : Json → Option Fields
  | .object members =>
    (knownMembers names members).bind fun fields =>
      if (fields.map Prod.fst).Nodup then some fields else none
  | .array items => if items.length ≤ names.length then some (names.zip items) else none
  | _ => none

def required {α : Type} (fields : Fields) (name : String) (read : Json → Option α) : Option α :=
  (fields.lookup name).bind read

def defaulted {α : Type} (fields : Fields) (name : String) (default : α)
    (read : Json → Option α) : Option α :=
  match fields.lookup name with
  | some value => read value
  | none => some default

def variant? : Json → Option (String × Option Json)
  | .string (some name) => some (name, none)
  | .object [(some name, content)] => some (name, some content)
  | _ => none

def bare : Option Json → Bool
  | none => true
  | some .null => true
  | some _ => false

def oneOf? {α : Type} (all : List α) (name : α → String) (json : Json) : Option α :=
  match variant? json with
  | some (written, content) =>
    if bare content then all.find? fun variant => name variant = written else none
  | none => none

def tagged (name : String) (content : Json) : Json := Json.record [(name, content)]

end ChangeApply.Wire
