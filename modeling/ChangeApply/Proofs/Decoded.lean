import ChangeApply.Proofs.Records

set_option autoImplicit false

namespace ChangeApply

namespace Json

theorem all_of_map {α β : Type} (read : α → Option β) (P : β → Prop)
    (each : ∀ source item, read source = some item → P item) (sources : List α) (items : List β)
    (found : sources.mapM read = some items) : ∀ item ∈ items, P item := by
  induction sources generalizing items with
  | nil =>
    cases found
    exact List.forall_mem_nil P
  | cons source rest ih =>
    rw [List.mapM_cons] at found
    obtain ⟨first, readFirst, found⟩ := Option.bind_eq_some_iff.mp found
    obtain ⟨later, readLater, built⟩ := Option.bind_eq_some_iff.mp found
    cases built
    exact List.forall_mem_cons.mpr ⟨each source first readFirst, ih later readLater⟩

theorem all_of_list {α : Type} (read : Json → Option α) (P : α → Prop)
    (each : ∀ json item, read json = some item → P item) (json : Json) (items : List α)
    (found : json.list? read = some items) : ∀ item ∈ items, P item := by
  cases json with
  | array sources => exact all_of_map read P each sources items found
  | _ => cases found

end Json

namespace Wire

theorem read_of_required {α : Type} (fields : Fields) (name : String) (read : Json → Option α)
    (content : α) (found : required fields name read = some content) :
    ∃ json, read json = some content := by
  obtain ⟨json, _, readBack⟩ := Option.bind_eq_some_iff.mp found
  exact ⟨json, readBack⟩

theorem read_of_defaulted {α : Type} (fields : Fields) (name : String) (default : α)
    (read : Json → Option α) (content : α) (found : defaulted fields name default read = some content) :
    content = default ∨ ∃ json, read json = some content := by
  unfold defaulted at found
  split at found
  next json _ => exact .inr ⟨json, found⟩
  next => exact .inl (Option.some.inj found).symm

end Wire

namespace Value

theorem regular_of_variant (name : String) (content : Option Json) (value : Value)
    (read : ofVariant? name content = some value) : value.Regular := by
  unfold ofVariant? at read
  split at read
  case h_10 =>
    obtain ⟨time, found, rfl⟩ := Option.map_eq_some_iff.mp read
    obtain ⟨text, _, found⟩ := Option.bind_eq_some_iff.mp found
    exact Time.regular_of_read text time found
  case h_11 =>
    obtain ⟨moment, found, rfl⟩ := Option.map_eq_some_iff.mp read
    obtain ⟨text, _, found⟩ := Option.bind_eq_some_iff.mp found
    exact Moment.regular_of_read text moment found
  case h_1 =>
    obtain ⟨_, same⟩ := Option.ite_none_right_eq_some.mp read
    cases same
    trivial
  case h_12 => cases read
  all_goals
    obtain ⟨_, _, rfl⟩ := Option.map_eq_some_iff.mp read
    trivial

theorem regular_of_json (json : Json) (value : Value) (read : ofJson? json = some value) : value.Regular := by
  unfold ofJson? at read
  split at read
  next name content _ => exact regular_of_variant name content value read
  next => cases read

theorem values_of_list (json : Json) (values : List Value) (read : json.list? ofJson? = some values) :
    ∀ value ∈ values, value.Regular :=
  Json.all_of_list ofJson? Regular regular_of_json json values read

end Value

namespace Cells

theorem all_put (P : Value → Prop) (name : String) (value : Value) (entries : List (String × Value))
    (new : P value) (old : ∀ entry ∈ entries, P entry.2) : ∀ entry ∈ put name value entries, P entry.2 := by
  induction entries with
  | nil => exact List.forall_mem_cons.mpr ⟨new, List.forall_mem_nil _⟩
  | cons entry rest ih =>
    obtain ⟨first, later⟩ := List.forall_mem_cons.mp old
    by_cases same : entry.1 = name
    · rw [put, if_pos same]
      exact List.forall_mem_cons.mpr ⟨new, later⟩
    · rw [put, if_neg same]
      exact List.forall_mem_cons.mpr ⟨first, ih later⟩

theorem all_of_pairs (P : Value → Prop) (pairs : List (String × Value)) (cells : Cells)
    (new : ∀ pair ∈ pairs, P pair.2) (old : ∀ entry ∈ cells.entries, P entry.2) :
    ∀ entry ∈ (pairs.foldl (fun cells pair => cells.set pair.1 pair.2) cells).entries, P entry.2 := by
  induction pairs generalizing cells with
  | nil => exact old
  | cons pair rest ih =>
    obtain ⟨first, later⟩ := List.forall_mem_cons.mp new
    exact ih (cells.set pair.1 pair.2) later (all_put P pair.1 pair.2 cells.entries first old)

theorem regular_of_json (json : Json) (cells : Cells) (read : ofJson? json = some cells) :
    ∀ entry ∈ cells.entries, entry.2.Regular := by
  unfold ofJson? at read
  split at read
  next members =>
    obtain ⟨pairs, found, rfl⟩ := Option.map_eq_some_iff.mp read
    refine all_of_pairs Value.Regular pairs empty (Json.all_of_map cellOfMember? _ ?_ members pairs found)
      (List.forall_mem_nil _)
    rintro ⟨_ | name, content⟩ pair read
    · cases read
    · obtain ⟨value, decoded, rfl⟩ := Option.map_eq_some_iff.mp read
      exact Value.regular_of_json content value decoded
  next => cases read

end Cells

theorem Row.regular_of_json (json : Json) (row : Row) (read : ofJson? json = some row) :
    ∀ value ∈ row.held, value.Regular := by
  obtain ⟨fields, _, read⟩ := Option.bind_eq_some_iff.mp read
  obtain ⟨values, readValues, read⟩ := Option.bind_eq_some_iff.mp read
  obtain ⟨changes, readChanges, built⟩ := Option.bind_eq_some_iff.mp read
  cases built
  have old : ∀ entry ∈ values.entries, entry.2.Regular := by
    obtain ⟨json, decoded⟩ := Wire.read_of_required fields _ _ values readValues
    exact Cells.regular_of_json json values decoded
  have new : ∀ entry ∈ changes.entries, entry.2.Regular := by
    rcases Wire.read_of_defaulted fields _ _ _ changes readChanges with rfl | ⟨json, decoded⟩
    · exact List.forall_mem_nil _
    · exact Cells.regular_of_json json changes decoded
  rw [held, List.forall_mem_append]
  exact ⟨List.forall_mem_map.mpr old, List.forall_mem_map.mpr new⟩

theorem RowChange.regular_of_json (json : Json) (change : RowChange) (read : ofJson? json = some change) :
    ∀ value ∈ change.held, value.Regular := by
  obtain ⟨fields, _, read⟩ := Option.bind_eq_some_iff.mp read
  obtain ⟨action, _, read⟩ := Option.bind_eq_some_iff.mp read
  obtain ⟨columns, _, read⟩ := Option.bind_eq_some_iff.mp read
  obtain ⟨rows, readRows, built⟩ := Option.bind_eq_some_iff.mp read
  cases built
  obtain ⟨json, decoded⟩ := Wire.read_of_required fields _ _ rows readRows
  have each := Json.all_of_list Row.ofJson? _ Row.regular_of_json json rows decoded
  intro value held
  obtain ⟨row, member, held⟩ := List.mem_flatMap.mp held
  exact each row member value held

theorem Statement.regular_of_json (json : Json) (statement : Statement) (read : ofJson? json = some statement) :
    ∀ value ∈ statement.params, value.Regular := by
  obtain ⟨fields, _, read⟩ := Option.bind_eq_some_iff.mp read
  obtain ⟨sql, _, read⟩ := Option.bind_eq_some_iff.mp read
  obtain ⟨params, readParams, read⟩ := Option.bind_eq_some_iff.mp read
  obtain ⟨table, _, built⟩ := Option.bind_eq_some_iff.mp read
  cases built
  obtain ⟨json, decoded⟩ := Wire.read_of_required fields _ _ params readParams
  exact Value.values_of_list json params decoded

theorem MergedStatement.decoded (json : Json) (merged : MergedStatement) (read : ofJson? json = some merged) :
    merged.rowCount ≤ 18446744073709551615 ∧ ∀ value ∈ merged.params, value.Regular := by
  obtain ⟨fields, _, read⟩ := Option.bind_eq_some_iff.mp read
  obtain ⟨sql, _, read⟩ := Option.bind_eq_some_iff.mp read
  obtain ⟨params, readParams, read⟩ := Option.bind_eq_some_iff.mp read
  obtain ⟨table, _, read⟩ := Option.bind_eq_some_iff.mp read
  obtain ⟨rowCount, counted, built⟩ := Option.bind_eq_some_iff.mp read
  cases built
  obtain ⟨count, natural⟩ := Wire.read_of_required fields _ _ rowCount counted
  obtain ⟨json, decoded⟩ := Wire.read_of_required fields _ _ params readParams
  exact ⟨((Json.natural_iff _ _ _).mp natural).2, Value.values_of_list json params decoded⟩

end ChangeApply
