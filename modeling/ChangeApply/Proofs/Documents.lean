import ChangeApply.Json.Reader
import ChangeApply.Proofs.Scanning

set_option autoImplicit false

/- The reader accepts a text exactly when it is a document written as JSON, and then it
   reads that document. Nesting has no bound, so what is still open is followed on the
   stack. -/
namespace ChangeApply.Json

mutual
def tokens : Json → List Token
  | .null => [.null]
  | .bool value => [.bool value]
  | .number value => [.number value]
  | .string text => [.string text]
  | .ragged units => [.ragged units]
  | .array [] => [.openArray, .closeArray]
  | .array (item :: rest) => .openArray :: (tokens item ++ laterItems rest)
  | .object [] => [.openObject, .closeObject]
  | .object ((name, value) :: rest) =>
    .openObject :: .string name :: .colon :: (tokens value ++ laterMembers rest)
def laterItems : List Json → List Token
  | [] => [.closeArray]
  | item :: rest => .comma :: (tokens item ++ laterItems rest)
def laterMembers : List (Text × Json) → List Token
  | [] => [.closeObject]
  | (name, value) :: rest =>
    .comma :: .string name :: .colon :: (tokens value ++ laterMembers rest)
end

def Written (json : Json) (text : List Char) : Prop := Token.Spaced (tokens json) text

theorem later_items_close (items : List Json) (rest : List Token) :
    ∀ next ∈ (laterItems items ++ rest).head?, next.closes = true := by
  cases items <;> simp [laterItems, Token.closes]

theorem later_members_close (members : List (Text × Json)) (rest : List Token) :
    ∀ next ∈ (laterMembers members ++ rest).head?, next.closes = true := by
  cases members <;> simp [laterMembers, Token.closes]

-- Only the last token of a value can be a number that meets what follows the value.
mutual
theorem tokens_apart (json : Json) (rest : List Token) (apart : Token.Apart rest)
    (closed : ∀ next ∈ rest.head?, next.closes = true) : Token.Apart (tokens json ++ rest) := by
  match json with
  | .null | .bool _ | .string _ | .ragged _ => exact Token.apart_cons _ _ rfl apart
  | .number _ => exact ⟨fun _ => closed, apart⟩
  | .array [] | .object [] => exact Token.apart_cons _ _ rfl (Token.apart_cons _ _ rfl apart)
  | .array (item :: items) =>
    rw [tokens, List.cons_append, List.append_assoc]
    exact Token.apart_cons _ _ rfl
      (tokens_apart item _ (later_items_apart items rest apart) (later_items_close items rest))
  | .object ((name, value) :: members) =>
    rw [tokens, List.cons_append, List.cons_append, List.cons_append, List.append_assoc]
    exact Token.apart_cons _ _ rfl (Token.apart_cons _ _ rfl (Token.apart_cons _ _ rfl
      (tokens_apart value _ (later_members_apart members rest apart)
        (later_members_close members rest))))
theorem later_items_apart (items : List Json) (rest : List Token) (apart : Token.Apart rest) :
    Token.Apart (laterItems items ++ rest) := by
  match items with
  | [] => exact Token.apart_cons _ _ rfl apart
  | item :: items =>
    rw [laterItems, List.cons_append, List.append_assoc]
    exact Token.apart_cons _ _ rfl
      (tokens_apart item _ (later_items_apart items rest apart) (later_items_close items rest))
theorem later_members_apart (members : List (Text × Json)) (rest : List Token)
    (apart : Token.Apart rest) : Token.Apart (laterMembers members ++ rest) := by
  match members with
  | [] => exact Token.apart_cons _ _ rfl apart
  | (name, value) :: members =>
    rw [laterMembers, List.cons_append, List.cons_append, List.cons_append, List.append_assoc]
    exact Token.apart_cons _ _ rfl (Token.apart_cons _ _ rfl (Token.apart_cons _ _ rfl
      (tokens_apart value _ (later_members_apart members rest apart)
        (later_members_close members rest))))
end

theorem assemble_array (stack : List Open) (tokens : List Token)
    (value : ∀ rest, tokens ≠ .closeArray :: rest) :
    assemble stack none (.openArray :: tokens) = assemble (.array [] :: stack) none tokens := by
  rw [assemble]
  exact value

theorem tokens_value (json : Json) (more rest : List Token) :
    tokens json ++ more ≠ .closeArray :: rest := by
  match json with
  | .null | .bool _ | .string _ | .ragged _ | .number _ | .array [] | .object [] | .array (_ :: _)
  | .object ((_, _) :: _) => simp [tokens]

-- Induction on the document. Its tokens leave the stack as it was, whatever is open on it,
-- and what was read of an enclosing array or object waits there in reverse.
mutual
theorem assemble_tokens (json : Json) (stack : List Open) (rest : List Token) :
    assemble stack none (tokens json ++ rest) = assemble stack (some json) rest := by
  match json with
  | .null | .bool _ | .string _ | .ragged _ | .number _ | .array [] | .object [] =>
    simp [tokens, assemble]
  | .array (item :: items) =>
    rw [tokens, List.cons_append, List.append_assoc, assemble_array _ _ (tokens_value item _),
      assemble_tokens item, assemble_later_items items]
    rfl
  | .object ((name, value) :: members) =>
    rw [tokens, List.cons_append, List.cons_append, List.cons_append, List.append_assoc, assemble,
      assemble_tokens value, assemble_later_members members]
    rfl
theorem assemble_later_items (items : List Json) (stack : List Open) (done : List Json)
    (item : Json) (rest : List Token) :
    assemble (.array done :: stack) (some item) (laterItems items ++ rest) =
      assemble stack (some (.array (done.reverse ++ item :: items))) rest := by
  match items with
  | [] => simp [laterItems, assemble]
  | next :: items =>
    rw [laterItems, List.cons_append, List.append_assoc, assemble, assemble_tokens next,
      assemble_later_items items]
    simp
theorem assemble_later_members (members : List (Text × Json)) (stack : List Open)
    (done : List (Text × Json)) (name : Text) (value : Json) (rest : List Token) :
    assemble (.object done name :: stack) (some value) (laterMembers members ++ rest) =
      assemble stack (some (.object (done.reverse ++ (name, value) :: members))) rest := by
  match members with
  | [] => simp [laterMembers, assemble]
  | (next, content) :: members =>
    rw [laterMembers, List.cons_append, List.cons_append, List.cons_append, List.append_assoc,
      assemble, assemble_tokens content, assemble_later_members members]
    simp
end

def earlierItems (items : List Json) : List Token :=
  items.flatMap fun item => tokens item ++ [.comma]

def earlierMembers (members : List (Text × Json)) : List Token :=
  members.flatMap fun member => .string member.1 :: .colon :: (tokens member.2 ++ [.comma])

theorem tokens_array (items : List Json) (last : Json) :
    tokens (.array (items ++ [last])) =
      .openArray :: (earlierItems items ++ (tokens last ++ [.closeArray])) := by
  have later (first : Json) (items : List Json) : tokens first ++ laterItems (items ++ [last]) =
      earlierItems (first :: items) ++ (tokens last ++ [.closeArray]) := by
    induction items generalizing first with
    | nil => simp [laterItems, earlierItems]
    | cons next items ih =>
      rw [List.cons_append, laterItems, ih next]
      simp [earlierItems]
  cases items with
  | nil => simp [tokens, laterItems, earlierItems]
  | cons first items => rw [List.cons_append, tokens, later]

theorem tokens_object (members : List (Text × Json)) (name : Text) (last : Json) :
    tokens (.object (members ++ [(name, last)])) =
      .openObject :: (earlierMembers members ++ .string name :: .colon :: (tokens last ++ [.closeObject])) := by
  have later (first : Text) (value : Json) (members : List (Text × Json)) :
      .string first :: .colon :: (tokens value ++ laterMembers (members ++ [(name, last)])) =
        earlierMembers ((first, value) :: members) ++ .string name :: .colon :: (tokens last ++ [.closeObject]) := by
    induction members generalizing first value with
    | nil => simp [laterMembers, earlierMembers]
    | cons next members ih =>
      obtain ⟨second, content⟩ := next
      rw [List.cons_append, laterMembers, ih second content]
      simp [earlierMembers]
  cases members with
  | nil => simp [tokens, laterMembers, earlierMembers]
  | cons first members => rw [List.cons_append, tokens, later]

def opened : List Open → List Token → List Token
  | [], rest => rest
  | .array done :: stack, rest => opened stack (.openArray :: (earlierItems done.reverse ++ rest))
  | .object done name :: stack, rest =>
    opened stack (.openObject :: (earlierMembers done.reverse ++ .string name :: .colon :: rest))

def current : Option Json → List Token
  | none => []
  | some json => tokens json

theorem tokens_of_assemble (stack : List Open) (item : Option Json) (rest : List Token) (json : Json)
    (found : assemble stack item rest = some json) : opened stack (current item ++ rest) = tokens json := by
  fun_induction assemble stack item rest with
  | case1 _ _ ih | case6 _ _ ih | case8 _ _ ih => exact ih found
  | case2 _ _ _ ih | case3 _ _ _ ih | case4 _ _ _ ih | case5 _ _ _ ih | case7 _ _ _ ih | case9 _ _ _ ih => exact ih found
  | case10 done stack item rest ih =>
    rw [← ih found]
    simp [opened, current, earlierItems]
  | case11 done stack item rest ih =>
    rw [← ih found]
    simp [opened, current, tokens_array]
  | case12 done name stack item next rest ih =>
    rw [← ih found]
    simp [opened, current, earlierMembers]
  | case13 done name stack item rest ih =>
    rw [← ih found]
    simp [opened, current, tokens_object]
  | case14 document =>
    cases found
    exact List.append_nil _
  | case15 => cases found

theorem read_iff (text : String) (json : Json) : read text = some json ↔ json.Written text.toList := by
  constructor
  · intro found
    obtain ⟨toks, scanned, assembled⟩ := Option.bind_eq_some_iff.mp found
    have same : toks = tokens json := tokens_of_assemble [] none toks json assembled
    rw [Written, ← same]
    exact Token.spaced_of_scan _ _ scanned
  · intro written
    have apart := tokens_apart json [] trivial (by simp)
    have assembled := assemble_tokens json [] []
    rw [List.append_nil] at apart assembled
    rw [read, Token.scan_spaced _ _ written apart]
    exact assembled

theorem have_skippable_iff (members : List (Text × Json)) :
    haveSkippable members = true ↔ ∀ member ∈ members, member.2.isSkippable = true := by
  induction members with
  | nil => simp [haveSkippable]
  | cons member members ih => simp [haveSkippable, ih]

mutual
theorem skippable_of_tokens (json : Json) (plain : ∀ units, .ragged units ∉ tokens json) :
    json.isSkippable = true := by
  match json with
  | .null | .bool _ | .string _ | .number _ | .array [] | .object [] => rfl
  | .ragged units => exact absurd List.mem_cons_self (plain units)
  | .array (item :: items) =>
    simp only [tokens, List.mem_cons, List.mem_append, reduceCtorEq, false_or, not_or] at plain
    rw [isSkippable, areSkippable, skippable_of_tokens item fun units => (plain units).1,
      skippable_of_items items fun units => (plain units).2, Bool.and_self]
  | .object ((name, value) :: members) =>
    simp only [tokens, List.mem_cons, List.mem_append, reduceCtorEq, false_or, not_or] at plain
    rw [isSkippable, haveSkippable, skippable_of_tokens value fun units => (plain units).1,
      skippable_of_members members fun units => (plain units).2, Bool.and_self]
theorem skippable_of_items (items : List Json) (plain : ∀ units, .ragged units ∉ laterItems items) :
    areSkippable items = true := by
  match items with
  | [] => rfl
  | item :: items =>
    simp only [laterItems, List.mem_cons, List.mem_append, reduceCtorEq, false_or, not_or] at plain
    rw [areSkippable, skippable_of_tokens item fun units => (plain units).1,
      skippable_of_items items fun units => (plain units).2, Bool.and_self]
theorem skippable_of_members (members : List (Text × Json))
    (plain : ∀ units, .ragged units ∉ laterMembers members) : haveSkippable members = true := by
  match members with
  | [] => rfl
  | (name, value) :: members =>
    simp only [laterMembers, List.mem_cons, List.mem_append, reduceCtorEq, false_or, not_or] at plain
    rw [haveSkippable, skippable_of_tokens value fun units => (plain units).1,
      skippable_of_members members fun units => (plain units).2, Bool.and_self]
end

theorem skippable_of_written (json : Json) (text : List Char) (written : json.Written text) :
    json.isSkippable = true :=
  skippable_of_tokens json (Token.ragged_not_spaced _ _ written)

def Proper (json : Json) : Prop := ∀ token ∈ tokens json, token.isProper = true

theorem read_loosely_of_read (text : String) (json : Json) (found : read text = some json)
    (proper : json.Proper) : readLoosely text = some json := by
  obtain ⟨toks, scanned, assembled⟩ := Option.bind_eq_some_iff.mp found
  have same : toks = tokens json := tokens_of_assemble [] none toks json assembled
  subst same
  have loose := Token.loose_within _ _ [] _ scanned proper
  rw [readLoosely, Token.scan, loose]
  simp only [Option.bind_eq_bind, Option.bind_some, Token.name_texts_proper _ proper]
  exact assembled

@[simp] theorem proper_null : null.Proper := List.forall_mem_singleton.mpr rfl

@[simp] theorem proper_bool (value : Bool) : (bool value).Proper := List.forall_mem_singleton.mpr rfl

@[simp] theorem proper_int (value : Int) : (ofInt value).Proper := List.forall_mem_singleton.mpr rfl

@[simp] theorem proper_nat (value : Nat) : (ofNat value).Proper := List.forall_mem_singleton.mpr rfl

@[simp] theorem proper_text (text : String) : (ofText text).Proper := List.forall_mem_singleton.mpr rfl

theorem proper_later_items (items : List Json) :
    (∀ token ∈ laterItems items, token.isProper = true) ↔ ∀ item ∈ items, item.Proper := by
  induction items with
  | nil => simp [laterItems, Token.isProper]
  | cons item items ih =>
    rw [laterItems, List.forall_mem_cons, List.forall_mem_append, ih, List.forall_mem_cons]
    exact and_iff_right rfl

@[simp] theorem proper_array (items : List Json) : (array items).Proper ↔ ∀ item ∈ items, item.Proper := by
  cases items with
  | nil => simp [Proper, tokens, Token.isProper]
  | cons item items =>
    rw [Proper, tokens, List.forall_mem_cons, List.forall_mem_append, proper_later_items, List.forall_mem_cons]
    exact and_iff_right rfl

theorem proper_later_members (members : List (String × Json)) :
    (∀ token ∈ laterMembers (members.map fun member => (some member.1, member.2)), token.isProper = true) ↔
      ∀ member ∈ members, member.2.Proper := by
  induction members with
  | nil => simp [laterMembers, Token.isProper]
  | cons member members ih =>
    rw [List.map_cons, laterMembers, List.forall_mem_cons, List.forall_mem_cons, List.forall_mem_cons,
      List.forall_mem_append, ih, List.forall_mem_cons]
    exact ((and_iff_right rfl).trans (and_iff_right rfl)).trans (and_iff_right rfl)

@[simp] theorem proper_record (members : List (String × Json)) :
    (record members).Proper ↔ ∀ member ∈ members, member.2.Proper := by
  cases members with
  | nil => simp [record, Proper, tokens, Token.isProper]
  | cons member members =>
    rw [record, Proper, List.map_cons, tokens, List.forall_mem_cons, List.forall_mem_cons, List.forall_mem_cons,
      List.forall_mem_append, proper_later_members, List.forall_mem_cons]
    exact ((and_iff_right rfl).trans (and_iff_right rfl)).trans (and_iff_right rfl)

end ChangeApply.Json
