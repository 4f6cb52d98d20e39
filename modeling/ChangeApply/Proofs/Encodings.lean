import ChangeApply.Proofs.Decoded
import ChangeApply.Proofs.Printing
import Mathlib.Data.List.Forall2

set_option autoImplicit false

namespace ChangeApply

namespace Cells

theorem mem_entries_iff (cells : Cells) (name : String) (value : Value) :
    (name, value) ∈ cells.entries ↔ cells.get? name = some value := by
  constructor
  · exact Wire.lookup_of_mem cells.entries name value cells.distinct
  · intro found
    obtain ⟨before, after, split, _⟩ := List.lookup_eq_some_iff.mp found
    rw [split]
    exact List.mem_append_right before List.mem_cons_self

def Same (left right : Cells) : Prop := ∀ name, left.get? name = right.get? name

theorem mem_of_same (left right : Cells) (same : Same left right) (value : Value)
    (member : value ∈ right.entries.map Prod.snd) : value ∈ left.entries.map Prod.snd := by
  obtain ⟨⟨name, _⟩, present, rfl⟩ := List.mem_map.mp member
  have found := (mem_entries_iff right name _).mp present
  rw [← same name] at found
  exact List.mem_map_of_mem ((mem_entries_iff left name _).mpr found)

end Cells

namespace Row

structure Same (left right : Row) : Prop where
  values : left.values.Same right.values
  changes : left.changes.Same right.changes

theorem same_equivalence : Equivalence Same where
  refl _ := ⟨fun _ => rfl, fun _ => rfl⟩
  symm same := ⟨fun name => (same.values name).symm, fun name => (same.changes name).symm⟩
  trans first second := ⟨fun name => (first.values name).trans (second.values name),
    fun name => (first.changes name).trans (second.changes name)⟩

theorem mem_of_same (left right : Row) (same : Same left right) (value : Value)
    (member : value ∈ right.held) : value ∈ left.held := by
  rcases List.mem_append.mp member with old | new
  · exact List.mem_append_left _ (Cells.mem_of_same _ _ same.values value old)
  · exact List.mem_append_right _ (Cells.mem_of_same _ _ same.changes value new)

theorem rows_equivalence : Equivalence (List.Forall₂ Same) where
  refl _ := List.forall₂_same.mpr fun _ _ => same_equivalence.refl _
  symm same := (same.imp fun _ _ each => same_equivalence.symm each).flip
  trans {left middle right} first second := by
    induction first generalizing right with
    | nil => exact second
    | cons each _ ih =>
      cases second with
      | cons next later => exact .cons (same_equivalence.trans each next) (ih later)

theorem mem_of_rows (left right : List Row) (same : List.Forall₂ Same left right) (value : Value)
    (member : value ∈ right.flatMap held) : value ∈ left.flatMap held := by
  induction same with
  | nil => exact member
  | cons each _ ih =>
    rw [List.flatMap_cons] at member ⊢
    rcases List.mem_append.mp member with here | later
    · exact List.mem_append_left _ (mem_of_same _ _ each value here)
    · exact List.mem_append_right _ (ih later)

end Row

namespace RowChange

structure Same (left right : RowChange) : Prop where
  action : left.action = right.action
  columns : left.columns = right.columns
  rows : List.Forall₂ Row.Same left.rows right.rows

theorem same_equivalence : Equivalence Same where
  refl _ := ⟨rfl, rfl, Row.rows_equivalence.refl _⟩
  symm same := ⟨same.action.symm, same.columns.symm, Row.rows_equivalence.symm same.rows⟩
  trans first second := ⟨first.action.trans second.action, first.columns.trans second.columns,
    Row.rows_equivalence.trans first.rows second.rows⟩

end RowChange

namespace Wire

structure Format where
  Content : Type
  toJson : Content → Json
  ofJson? : Json → Option Content
  held : Content → List Value
  Sized : Content → Prop
  Same : Content → Content → Prop
  back : ∀ content, (∀ value ∈ held content, value.IsReadable) → Sized content →
    ofJson? (toJson content) = some content
  proper : ∀ content, (toJson content).Proper
  decoded : ∀ json content, ofJson? json = some content →
    Sized content ∧ ∀ value ∈ held content, value.Regular
  equivalence : Equivalence Same
  held_of_same : ∀ left right, Same left right → ∀ value ∈ held right, value ∈ held left
  sized_of_same : ∀ left right, Same left right → Sized left → Sized right

namespace Format

def upTo {α : Type} (Same : α → α → Prop) (toJson : α → Json) (ofJson? : Json → Option α)
    (held : α → List Value) (equivalence : Equivalence Same)
    (heldOfSame : ∀ left right, Same left right → ∀ value ∈ held right, value ∈ held left)
    (back : ∀ content, (∀ value ∈ held content, value.IsReadable) →
      ofJson? (toJson content) = some content)
    (proper : ∀ content, (toJson content).Proper)
    (decoded : ∀ json content, ofJson? json = some content → ∀ value ∈ held content, value.Regular) : Format where
  Content := α
  toJson := toJson
  ofJson? := ofJson?
  held := held
  Sized _ := True
  Same := Same
  back content readable _ := back content readable
  proper := proper
  decoded json content read := ⟨trivial, decoded json content read⟩
  equivalence := equivalence
  held_of_same := heldOfSame
  sized_of_same _ _ _ sized := sized

def exactly {α : Type} (toJson : α → Json) (ofJson? : Json → Option α) (held : α → List Value)
    (back : ∀ content, (∀ value ∈ held content, value.IsReadable) →
      ofJson? (toJson content) = some content)
    (proper : ∀ content, (toJson content).Proper)
    (decoded : ∀ json content, ofJson? json = some content → ∀ value ∈ held content, value.Regular) : Format :=
  upTo Eq toJson ofJson? held eq_equivalence (fun _ _ same _ member => same ▸ member) back proper decoded

def plainly {α : Type} (toJson : α → Json) (ofJson? : Json → Option α)
    (back : ∀ content, ofJson? (toJson content) = some content) (proper : ∀ content, (toJson content).Proper) :
    Format :=
  exactly toJson ofJson? (fun _ => []) (fun content _ => back content) proper fun _ _ _ => List.forall_mem_nil _

variable (format : Format)

def write (content : format.Content) : String := (format.toJson content).text

def read (document : String) : Option format.Content := (Json.readLoosely document).bind format.ofJson?

def Floatless (content : format.Content) : Prop :=
  ∀ value ∈ format.held content, value.isFloat = false

def Regular (content : format.Content) : Prop := ∀ value ∈ format.held content, value.Regular

/-- What a content is written as when its maps are gone through in some order. -/
def Encodes (content : format.Content) (text : String) : Prop :=
  ∃ ordered, format.Same content ordered ∧ format.write ordered = text

/-- A content without floats that is kept in memory or was read from some document. -/
def Given (content : format.Content) : Prop :=
  format.Floatless content ∧
    (format.Regular content ∧ format.Sized content ∨ ∃ document, format.read document = some content)

theorem regular_of_given (content : format.Content) (given : format.Given content) :
    format.Regular content ∧ format.Sized content := by
  rcases given.2 with regular | ⟨document, read⟩
  · exact regular
  · obtain ⟨json, _, decoded⟩ := Option.bind_eq_some_iff.mp read
    exact (format.decoded json content decoded).symm

theorem read_write (content : format.Content) (floatless : format.Floatless content)
    (regular : format.Regular content) (sized : format.Sized content) :
    format.read (format.write content) = some content := by
  rw [read, write, Json.read_loosely_text _ (format.proper content)]
  exact format.back content (fun value member => ⟨floatless value member, regular value member⟩) sized

theorem read_ordered (content ordered : format.Content) (given : format.Given content)
    (same : format.Same content ordered) : format.read (format.write ordered) = some ordered := by
  obtain ⟨regular, sized⟩ := format.regular_of_given content given
  have held := format.held_of_same content ordered same
  exact format.read_write ordered (fun value member => given.1 value (held value member))
    (fun value member => regular value (held value member)) (format.sized_of_same content ordered same sized)

theorem same_of_encodings (left right : format.Content) (text : String)
    (givenLeft : format.Given left) (givenRight : format.Given right)
    (first : format.Encodes left text) (second : format.Encodes right text) :
    format.Same left right := by
  obtain ⟨_, sameLeft, rfl⟩ := first
  obtain ⟨_, sameRight, written⟩ := second
  have readLeft := format.read_ordered left _ givenLeft sameLeft
  have readRight := format.read_ordered right _ givenRight sameRight
  rw [written, readLeft] at readRight
  cases readRight
  exact format.equivalence.trans sameLeft (format.equivalence.symm sameRight)

end Format

inductive Kind where
  | value
  | column
  | row
  | rowChange
  | table
  | statement
  | mergedStatement
  | ddlStatement
  | rowAction
  | eventKind
  | ddlKind
  | hint
  | jobOutcome
  | insertVerb
  | policy

def Kind.format : Kind → Format
  | .value => .exactly Value.toJson Value.ofJson? (fun value => [value])
    (fun value readable => value.of_to_json (readable value List.mem_cons_self)) Value.proper_json
    fun json value read => List.forall_mem_singleton.mpr (Value.regular_of_json json value read)
  | .column => .plainly Column.toJson Column.ofJson? Column.of_to_json Column.proper_json
  | .row => .upTo Row.Same Row.toJson Row.ofJson? Row.held Row.same_equivalence Row.mem_of_same
    Row.of_to_json Row.proper_json Row.regular_of_json
  | .rowChange => .upTo RowChange.Same RowChange.toJson RowChange.ofJson? RowChange.held
    RowChange.same_equivalence (fun _ _ same => Row.mem_of_rows _ _ same.rows) RowChange.of_to_json
    RowChange.proper_json RowChange.regular_of_json
  | .table => .plainly Table.toJson Table.ofJson? Table.of_to_json Table.proper_json
  | .statement => .exactly Statement.toJson Statement.ofJson? Statement.params Statement.of_to_json
    Statement.proper_json Statement.regular_of_json
  | .mergedStatement => {
      Content := MergedStatement
      toJson := MergedStatement.toJson
      ofJson? := MergedStatement.ofJson?
      held := MergedStatement.params
      Sized := fun merged => merged.rowCount ≤ 18446744073709551615
      Same := Eq
      back := MergedStatement.of_to_json
      proper := MergedStatement.proper_json
      decoded := MergedStatement.decoded
      equivalence := eq_equivalence
      held_of_same := fun _ _ same _ member => same ▸ member
      sized_of_same := fun _ _ same sized => same ▸ sized }
  | .ddlStatement =>
    .plainly DdlStatement.toJson DdlStatement.ofJson? DdlStatement.of_to_json DdlStatement.proper_json
  | .rowAction => .plainly RowAction.toJson RowAction.ofJson? RowAction.of_to_json fun _ => Json.proper_text _
  | .eventKind => .plainly EventKind.toJson EventKind.ofJson? EventKind.of_to_json EventKind.proper_json
  | .ddlKind => .plainly DdlKind.toJson DdlKind.ofJson? DdlKind.of_to_json fun _ => Json.proper_text _
  | .hint => .plainly Hint.toJson Hint.ofJson? Hint.of_to_json fun _ => Json.proper_text _
  | .jobOutcome => .plainly JobOutcome.toJson JobOutcome.ofJson? JobOutcome.of_to_json fun _ => Json.proper_text _
  | .insertVerb => .plainly InsertVerb.toJson InsertVerb.ofJson? InsertVerb.of_to_json fun _ => Json.proper_text _
  | .policy => .plainly Policy.toJson Policy.ofJson? Policy.of_to_json Policy.proper_json

end Wire

theorem encodings_are_canonical (kind : Wire.Kind) (content : kind.format.Content)
    (given : kind.format.Given content) :
    kind.format.read (kind.format.write content) = some content ∧
      (∀ text, kind.format.Encodes content text → ∃ again, kind.format.read text = some again ∧
        kind.format.Same content again ∧ kind.format.write again = text) ∧
      (∀ other text, kind.format.Given other → kind.format.Encodes content text →
        kind.format.Encodes other text → kind.format.Same content other) := by
  refine ⟨?_, ?_, ?_⟩
  · exact kind.format.read_ordered content content given (kind.format.equivalence.refl content)
  · rintro _ ⟨ordered, same, rfl⟩
    exact ⟨ordered, kind.format.read_ordered content ordered given same, same, rfl⟩
  · intro other text givenOther first second
    exact kind.format.same_of_encodings content other text given givenOther first second

def spelledText : String :=
  "[\x7b\"Insert\":null\x7d, [[\"id\",1],\x7b\"ordinal\":2,\"note\":[],\"name\":\"at\"\x7d],\n" ++
    "[[\x7b\"id\":\x7b\"Bytes\":\"a\\ud800\t\"\x7d,\"at\":\x7b\"Time\":\"23:59:60.5\"\x7d\x7d]," ++
    "\x7b\"values\":\x7b\"on\":\x7b\"Date\":\"-0004-02-29\"\x7d,\"id\":\"Null\"\x7d\x7d]]"

def leapChange : RowChange where
  action := .insert
  columns := [⟨"id", 1⟩, ⟨"at", 2⟩]
  rows := [
    .ofPairs [("id", .bytes [97, 237, 160, 128, 9]), ("at", .time ⟨23, 59, 59, 1500000000, by decide⟩)],
    .ofPairs [("on", .date ⟨-4, 2, 29, by decide⟩), ("id", .null)]]

theorem spelled_change_is_rewritten :
    Wire.Kind.rowChange.format.read spelledText = some leapChange ∧
      Wire.Kind.rowChange.format.write leapChange ≠ spelledText ∧
      Wire.Kind.rowChange.format.read (Wire.Kind.rowChange.format.write leapChange) =
        some leapChange := by
  have decoded : (Json.readLoosely spelledText).bind RowChange.ofJson? = some leapChange := by decide +kernel
  have read : Wire.Kind.rowChange.format.read spelledText = some leapChange := decoded
  have floatless : ∀ value ∈ leapChange.held, value.isFloat = false := by decide +kernel
  have other : leapChange.toJson.text ≠ spelledText := by decide +kernel
  exact ⟨read, other,
    (encodings_are_canonical .rowChange leapChange ⟨floatless, .inr ⟨spelledText, read⟩⟩).1⟩

def strangeTime : Time := ⟨23, 56, 4, 1333333333, by decide⟩

def plainTime : Time := ⟨23, 56, 5, 333333333, by decide⟩

theorem strange_leap_seconds_are_read_as_plain :
    Value.isFloat (.time strangeTime) = false ∧ Value.time strangeTime ≠ .time plainTime ∧
      Wire.Kind.value.format.write (.time strangeTime) = Wire.Kind.value.format.write (.time plainTime) ∧
      Wire.Kind.value.format.read (Wire.Kind.value.format.write (.time strangeTime)) = some (.time plainTime) := by
  have written : (Value.time strangeTime).toJson.text = (Value.time plainTime).toJson.text := by decide +kernel
  have read : (Json.readLoosely (Value.time strangeTime).toJson.text).bind Value.ofJson? = some (.time plainTime) := by
    decide +kernel
  exact ⟨rfl, by decide, written, read⟩

end ChangeApply
