import ChangeApply.Proofs.DatesAndTimes
import ChangeApply.Proofs.Spelling
import ChangeApply.Proofs.Variants
import ChangeApply.Wire.Change
import ChangeApply.Wire.Statement

set_option autoImplicit false

namespace ChangeApply

namespace Json

@[simp] theorem text_of_text (text : String) : (ofText text).text? = some text := rfl

@[simp] theorem bool_of_bool (value : Bool) : (Json.bool value).bool? = some value := rfl

theorem whole_of_int (low high value : Int) (above : low ≤ value) (below : value ≤ high) :
    (ofInt value).whole? low high = some value :=
  (whole_iff low high value _).mpr ⟨rfl, above, below⟩

theorem natural_of_nat (high value : Nat) (below : value ≤ high) :
    (ofNat value).natural? high = some value :=
  (natural_iff high value _).mpr ⟨rfl, below⟩

theorem list_of_items {α : Type} (write : α → Json) (read : Json → Option α) (items : List α)
    (back : ∀ item ∈ items, read (write item) = some item) :
    (Json.array (items.map write)).list? read = some items := by
  rw [list?]
  induction items with
  | nil => rfl
  | cons item rest ih =>
    rw [List.map_cons, List.mapM_cons, back item List.mem_cons_self,
      ih fun other later => back other (List.mem_cons_of_mem item later)]
    rfl

end Json

namespace Wire

theorem known_members (names : List String) (fields : Fields)
    (known : ∀ field ∈ fields, field.1 ∈ names) :
    knownMembers names (fields.map fun field => (some field.1, field.2)) = some fields := by
  induction fields with
  | nil => rfl
  | cons field rest ih =>
    have here : names.contains field.1 = true :=
      List.contains_iff_mem.mpr (known field List.mem_cons_self)
    rw [List.map_cons, knownMembers, if_pos here,
      ih fun other later => known other (List.mem_cons_of_mem field later), Option.map_some]

@[simp] theorem fields_of_record (names : List String) (fields : Fields)
    (written : fields.map Prod.fst = names) (distinct : names.Nodup) :
    fields? names (Json.record fields) = some fields := by
  have known : ∀ field ∈ fields, field.1 ∈ names := by
    intro field member
    rw [← written]
    exact List.mem_map_of_mem member
  rw [Json.record, fields?, known_members names fields known, Option.bind_some, written, if_pos distinct]

theorem known_members_count (names : List String) (members : List (Json.Text × Json)) (fields : Fields)
    (name : String) (known : name ∈ names) (found : knownMembers names members = some fields) :
    (fields.map Prod.fst).count name = (members.map Prod.fst).count (some name) := by
  fun_induction knownMembers names members generalizing fields with
  | case1 =>
    cases found
    rfl
  | case2 => cases found
  | case3 other json rest listed ih =>
    obtain ⟨later, read, rfl⟩ := Option.map_eq_some_iff.mp found
    simp [List.count_cons, ih later read]
  | case4 other json rest unlisted _ ih =>
    have different : other ≠ name := by
      rintro rfl
      exact unlisted (List.contains_iff_mem.mpr known)
    simp [ih fields found, different]
  | case5 => cases found

theorem mem_known_members (names : List String) (members : List (Json.Text × Json)) (fields : Fields)
    (name : String) (json : Json) (known : name ∈ names) (found : knownMembers names members = some fields)
    (present : (some name, json) ∈ members) : (name, json) ∈ fields := by
  fun_induction knownMembers names members generalizing fields with
  | case1 => cases present
  | case2 => cases found
  | case3 other content rest listed ih =>
    obtain ⟨later, read, rfl⟩ := Option.map_eq_some_iff.mp found
    rcases List.mem_cons.mp present with here | there
    · cases here
      exact List.mem_cons_self
    · exact List.mem_cons_of_mem _ (ih later read there)
  | case4 other content rest unlisted _ ih =>
    rcases List.mem_cons.mp present with here | there
    · cases here
      exact absurd (List.contains_iff_mem.mpr known) unlisted
    · exact ih fields found there
  | case5 => cases found

theorem zip_names (names : List String) (items : List Json) :
    ((names.zip items).map Prod.fst).Sublist names := by
  induction names generalizing items with
  | nil => exact List.Sublist.refl []
  | cons name names ih =>
    cases items with
    | nil => exact List.nil_sublist _
    | cons item items => exact (ih items).cons_cons name

section

variable {α : Type} (name other : String) (json : Json) (fields : Fields) (default : α)
  (read : Json → Option α)

@[simp] theorem required_here : required ((name, json) :: fields) name read = read json := by
  rw [required, List.lookup_cons_self, Option.bind_some]

@[simp] theorem required_later (different : name ≠ other) :
    required ((other, json) :: fields) name read = required fields name read := by
  rw [required, required, List.lookup_cons, beq_false_of_ne different]

@[simp] theorem defaulted_here :
    defaulted ((name, json) :: fields) name default read = read json := by
  rw [defaulted, List.lookup_cons_self]

@[simp] theorem defaulted_later (different : name ≠ other) :
    defaulted ((other, json) :: fields) name default read = defaulted fields name default read := by
  rw [defaulted, defaulted, List.lookup_cons, beq_false_of_ne different]

theorem defaulted_absent (absent : fields.lookup name = none) :
    defaulted fields name default read = some default := by
  rw [defaulted, absent]

theorem defaulted_present (present : fields.lookup name = some json) :
    defaulted fields name default read = read json := by
  rw [defaulted, present]

end

theorem one_of_named {α : Type} (all : List α) (name : α → String) (variant : α)
    (listed : variant ∈ all) (named : ∀ other ∈ all, name other = name variant → other = variant) :
    oneOf? all name (Json.ofText (name variant)) = some variant :=
  (one_of_iff all name _ variant named).mpr ⟨listed, .text⟩

theorem lookup_of_mem {α : Type} (entries : List (String × α)) (name : String) (value : α)
    (distinct : (entries.map Prod.fst).Nodup) (member : (name, value) ∈ entries) :
    entries.lookup name = some value := by
  obtain ⟨before, after, rfl⟩ := List.append_of_mem member
  refine List.lookup_eq_some_iff.mpr ⟨before, after, rfl, fun other earlier => bne_iff_ne.mpr ?_⟩
  rw [List.map_append, List.map_cons, List.nodup_append] at distinct
  exact Ne.symm (distinct.2.2 other.1 (List.mem_map_of_mem earlier) name List.mem_cons_self)

end Wire

theorem RowAction.of_to_json (action : RowAction) : ofJson? action.toJson = some action :=
  Wire.one_of_named all name action (by cases action <;> decide) (by cases action <;> decide)

theorem DdlKind.of_to_json (kind : DdlKind) : ofJson? kind.toJson = some kind :=
  Wire.one_of_named all name kind (by cases kind <;> decide) (by cases kind <;> decide)

theorem Hint.of_to_json (hint : Hint) : ofJson? hint.toJson = some hint :=
  (of_json_iff _ hint).mpr .text

theorem JobOutcome.of_to_json (outcome : JobOutcome) : ofJson? outcome.toJson = some outcome :=
  Wire.one_of_named all name outcome (by cases outcome <;> decide) (by cases outcome <;> decide)

theorem InsertVerb.of_to_json (verb : InsertVerb) : ofJson? verb.toJson = some verb :=
  (of_json_iff _ verb).mpr .text

theorem EventKind.of_to_json (event : EventKind) : ofJson? event.toJson = some event := by
  cases event with
  | ddl kind => exact congrArg (Option.map EventKind.ddl) kind.of_to_json
  | row action =>
    have back := congrArg (Option.map EventKind.row) action.of_to_json
    cases action <;> exact back

theorem Policy.of_to_json (policy : Policy) : ofJson? policy.toJson = some policy := by
  refine (of_json_iff _ policy).mpr ?_
  cases policy with
  | merging verb => exact .merging verb _ .text
  | rowByRow | replacing | mergingReplace => exact .bare _ _ (by decide) .text

namespace Value

def isFloat : Value → Bool
  | .float _ => true
  | _ => false

def Regular : Value → Prop
  | .time value => value.Regular
  | .moment value => value.time.Regular
  | _ => True

def IsReadable (value : Value) : Prop := value.isFloat = false ∧ value.Regular

theorem bytes_of_items (content : List UInt8) :
    bytesOfJson? (.array (content.map fun byte => Json.ofNat byte.toNat)) = some content := by
  refine Json.list_of_items _ _ content fun byte _ => ?_
  have below := byte.toNat_lt
  rw [Json.natural_of_nat 255 byte.toNat (by omega), Option.map_some, UInt8.ofNat_toNat]

theorem bytes_of_units (units : List Json.Unit16) (letters : List Char) (stands : Json.StandsFor units letters) :
    bytesOfJson? (Json.ofText (String.ofList letters)) = bytesOfJson? (.ragged units) := by
  have octets : Json.Unit16.octets units = letters.flatMap String.utf8EncodeChar := by
    induction stands with
    | nil => rfl
    | char c units text _ ih => rw [Json.Unit16.octets, ih, List.flatMap_cons]
    | pair high low units text _ ih => rw [Json.Unit16.octets, ih, List.flatMap_cons]
  simp [Json.ofText, bytesOfJson?, octets, String.toUTF8_eq_toByteArray, List.utf8Encode]

theorem of_tagged (name : String) (content : Json) :
    ofJson? (Wire.tagged name content) = ofVariant? name (some content) := rfl

theorem of_to_json (value : Value) (readable : value.IsReadable) :
    ofJson? value.toJson = some value := by
  obtain ⟨floatless, regular⟩ := readable
  cases value with
  | null => rfl
  | bool value => simp [toJson, of_tagged, ofVariant?]
  | int value =>
    have below := value.toInt_lt
    have read := Json.whole_of_int (-9223372036854775808) 9223372036854775807 value.toInt
      value.le_toInt (by omega)
    simp [toJson, of_tagged, ofVariant?, read]
  | uint value =>
    have below := value.toNat_lt
    have read := Json.natural_of_nat 18446744073709551615 value.toNat (by omega)
    simp [toJson, of_tagged, ofVariant?, read]
  | float value => cases floatless
  | decimal text => simp [toJson, of_tagged, ofVariant?]
  | string text => simp [toJson, of_tagged, ofVariant?]
  | bytes content => simp [toJson, of_tagged, ofVariant?, bytes_of_items]
  | date value => simp [toJson, of_tagged, ofVariant?, Date.read_text]
  | time value => simp [toJson, of_tagged, ofVariant?, value.read_text_iff.mpr regular]
  | moment value => simp [toJson, of_tagged, ofVariant?, value.read_text_iff.mpr regular]

theorem list_of_values (values : List Value) (readable : ∀ value ∈ values, value.IsReadable) :
    (Json.array (values.map toJson)).list? ofJson? = some values :=
  Json.list_of_items toJson ofJson? values fun value member =>
    value.of_to_json (readable value member)

end Value

namespace Column

theorem of_to_json (column : Column) : ofJson? column.toJson = some column := by
  have below := column.ordinal.toNat_lt
  have ordinal := Json.natural_of_nat 4294967295 column.ordinal.toNat (by omega)
  simp [toJson, ofJson?, ordinal]

theorem list_of_columns (columns : List Column) :
    (Json.array (columns.map toJson)).list? ofJson? = some columns :=
  Json.list_of_items toJson ofJson? columns fun column _ => column.of_to_json

end Column

namespace Table

theorem key_of_text_or_null (key : Option String) :
    (textOrNull key).nullable? Json.text? = some key := by
  cases key <;> rfl

theorem of_to_json (table : Table) : ofJson? table.toJson = some table := by
  have keys (names : List String) := Json.list_of_items Json.ofText Json.text? names fun _ _ => rfl
  simp [toJson, ofJson?, fieldNames, Column.list_of_columns, keys, key_of_text_or_null]

end Table

namespace Cells

theorem put_absent (name : String) (value : Value) (entries : List (String × Value))
    (absent : name ∉ entries.map Prod.fst) : put name value entries = entries ++ [(name, value)] := by
  induction entries with
  | nil => rfl
  | cons entry rest ih =>
    simp only [List.map_cons, List.mem_cons, not_or] at absent
    rw [put, if_neg (Ne.symm absent.1), ih absent.2, List.cons_append]

theorem entries_of_pairs (pairs : List (String × Value)) (cells : Cells)
    (distinct : ((cells.entries ++ pairs).map Prod.fst).Nodup) :
    (pairs.foldl (fun cells pair => cells.set pair.1 pair.2) cells).entries = cells.entries ++ pairs := by
  induction pairs generalizing cells with
  | nil => simp
  | cons pair rest ih =>
    have absent : pair.1 ∉ cells.entries.map Prod.fst := by
      rw [List.map_append, List.map_cons, List.nodup_append] at distinct
      exact fun present => distinct.2.2 pair.1 present pair.1 List.mem_cons_self rfl
    have added : (cells.set pair.1 pair.2).entries = cells.entries ++ [pair] := put_absent _ _ _ absent
    rw [List.foldl_cons, ih (cells.set pair.1 pair.2) (by simpa [added] using distinct), added]
    simp

theorem eq_of_entries (left right : Cells) (same : left.entries = right.entries) : left = right := by
  cases left
  cases right
  cases same
  rfl

theorem of_entries (cells : Cells) : ofPairs cells.entries = cells :=
  eq_of_entries _ _ (entries_of_pairs cells.entries empty cells.distinct)

theorem cells_of_members (entries : List (String × Value))
    (readable : ∀ entry ∈ entries, entry.2.IsReadable) :
    (entries.map fun entry => (some entry.1, entry.2.toJson)).mapM cellOfMember? = some entries := by
  induction entries with
  | nil => rfl
  | cons entry rest ih =>
    have here : cellOfMember? (some entry.1, entry.2.toJson) = some entry := by
      rw [cellOfMember?, entry.2.of_to_json (readable entry List.mem_cons_self)]
      rfl
    rw [List.map_cons, List.mapM_cons, here,
      ih fun other later => readable other (List.mem_cons_of_mem entry later)]
    rfl

theorem of_to_json (cells : Cells) (readable : ∀ entry ∈ cells.entries, entry.2.IsReadable) :
    ofJson? cells.toJson = some cells := by
  rw [toJson, Json.record, List.map_map, ofJson?]
  exact (congrArg (Option.map ofPairs) (cells_of_members cells.entries readable)).trans
    (congrArg some cells.of_entries)

end Cells

namespace Row

def held (row : Row) : List Value :=
  row.values.entries.map Prod.snd ++ row.changes.entries.map Prod.snd

theorem of_to_json (row : Row) (readable : ∀ value ∈ row.held, value.IsReadable) :
    ofJson? row.toJson = some row := by
  have values := row.values.of_to_json fun entry member =>
    readable entry.2 (List.mem_append_left _ (List.mem_map_of_mem member))
  have changes := row.changes.of_to_json fun entry member =>
    readable entry.2 (List.mem_append_right _ (List.mem_map_of_mem member))
  simp [toJson, ofJson?, values, changes]

end Row

namespace RowChange

def held (change : RowChange) : List Value := change.rows.flatMap Row.held

theorem of_to_json (change : RowChange) (readable : ∀ value ∈ change.held, value.IsReadable) :
    ofJson? change.toJson = some change := by
  have rows := Json.list_of_items Row.toJson Row.ofJson? change.rows fun row member =>
    row.of_to_json fun value held => readable value (List.mem_flatMap.mpr ⟨row, member, held⟩)
  simp [toJson, ofJson?, Column.list_of_columns, rows, RowAction.of_to_json]

end RowChange

theorem Statement.of_to_json (statement : Statement)
    (readable : ∀ value ∈ statement.params, value.IsReadable) :
    ofJson? statement.toJson = some statement := by
  simp [toJson, ofJson?, Value.list_of_values statement.params readable]

theorem MergedStatement.of_to_json (merged : MergedStatement)
    (readable : ∀ value ∈ merged.params, value.IsReadable)
    (sized : merged.rowCount ≤ 18446744073709551615) : ofJson? merged.toJson = some merged := by
  have rowCount := Json.natural_of_nat 18446744073709551615 merged.rowCount sized
  simp [toJson, ofJson?, Value.list_of_values merged.params readable, rowCount]

theorem DdlStatement.of_to_json (ddl : DdlStatement) : ofJson? ddl.toJson = some ddl := by
  simp [toJson, ofJson?]

end ChangeApply
