import ChangeApply.Proofs.Reading

set_option autoImplicit false

namespace ChangeApply

def placeholders (tokens : List Token) : Nat := tokens.count (.bare '?')

namespace Sql

open Token Reading

theorem placeholders_append (first second : List Token) :
    placeholders (first ++ second) = placeholders first + placeholders second :=
  List.count_append

theorem placeholders_bares (text : List Char) : placeholders (bares text) = text.count '?' := by
  induction text with
  | nil => rw [bares_nil]; rfl
  | cons c text ih =>
    rw [placeholders] at ih
    rw [bares_cons, placeholders, List.count_cons, ih, List.count_cons]
    congr 1
    by_cases mark : c = '?' <;> simp [mark]

theorem placeholders_list {α β : Type} (separator : List Char) (tokens : α → List Token) (governed : α → List β)
    (items : List α) (unmarked : separator.count '?' = 0)
    (each : ∀ item, placeholders (tokens item) = (governed item).length) :
    placeholders (joined (bares separator) (items.map tokens)) = (items.flatMap governed).length := by
  induction items with
  | nil => rfl
  | cons item others ih =>
    cases others with
    | nil =>
      rw [List.map_cons, List.map_nil, joined, each, List.flatMap_cons, List.flatMap_nil, List.append_nil]
    | cons next others =>
      rw [List.map_cons] at ih ⊢
      rw [List.map_cons, joined, placeholders_append, placeholders_append, placeholders_bares, unmarked, each, ih,
        Nat.add_zero, ← List.length_append, ← List.flatMap_cons]
      exact List.cons_ne_nil _ _

theorem placeholders_table (table : TableName) : placeholders (tableTokens table) = 0 := by
  simp [placeholders, tableTokens]

theorem placeholders_name (column : String) : placeholders (nameTokens column) = 0 := by
  simp [placeholders, nameTokens]

theorem placeholders_assigned (column : String) : placeholders (assignedTokens column) = 1 := by
  rw [assignedTokens, placeholders_append, placeholders_bares, placeholders_name]
  rfl

theorem placeholders_names (columns : List String) : placeholders (nameListTokens columns) = 0 := by
  rw [nameListTokens, placeholders_list [','] nameTokens (fun _ => ([] : List Unit)) columns (by decide) placeholders_name,
    List.flatMap_eq_nil_iff.mpr fun _ _ => rfl]
  rfl

theorem placeholders_assigned_list (changed : Bool) (columns : List String) :
    placeholders (assignedListTokens columns) = (columnSlots changed columns).length := by
  rw [assignedListTokens, placeholders_list [','] assignedTokens (fun column => [column]) columns (by decide)
    placeholders_assigned]
  simp [columnSlots]

theorem placeholders_condition (terms : List Term) :
    placeholders (conditionTokens terms) = (termSlots terms).length := by
  have each (one : Term) : placeholders (termTokens one) = (termSlots [one]).length := by
    cases one with
    | equals column => exact placeholders_assigned column
    | isNull column =>
      have unmarked : " IS NULL".toList.count '?' = 0 := by decide
      rw [termTokens, placeholders_append, placeholders_bares, placeholders_name, unmarked]
      rfl
  rw [conditionTokens, placeholders_list " AND ".toList termTokens (fun one => termSlots [one]) terms (by decide) each]
  congr 1
  induction terms with
  | nil => rfl
  | cons one others ih => cases one <;> simp [termSlots, List.flatMap_cons] at ih ⊢ <;> exact ih

theorem placeholders_tuple (columns : List String) : placeholders (tupleTokens columns) = columns.length := by
  have marks : placeholders (joined (bares [',']) ((List.replicate columns.length ()).map markTokens)) = columns.length := by
    rw [placeholders_list [','] markTokens (fun mark => [mark]) _ (by decide) fun _ => placeholders_bares ['?']]
    simp
  rw [tupleTokens, placeholders_append, placeholders_append, placeholders_bares, placeholders_bares, marks]
  simp

theorem length_tuple_slots (tuples : List (List String)) (row : Nat) :
    ((tuples.zipIdx row).flatMap fun entry => entry.1.map fun column => Slot.mk entry.2 column false).length =
      (tuples.flatMap fun columns => columns).length := by
  induction tuples generalizing row with
  | nil => rfl
  | cons columns others ih =>
    rw [List.zipIdx_cons, List.flatMap_cons, List.length_append, ih, List.flatMap_cons, List.length_append, List.length_map]

theorem placeholders_tuples (columns : List String) (rows : Nat) :
    placeholders (tuplesTokens columns rows) = (tupleSlots (List.replicate rows columns)).length := by
  rw [tuplesTokens, placeholders_list [','] tupleTokens (fun columns => columns) _ (by decide) placeholders_tuple,
    tupleSlots, length_tuple_slots]

-- The keywords hold no placeholder, so only the lists count.
theorem placeholders_tokens (sql : Sql) : placeholders sql.tokens = sql.slots.length := by
  have verbs (verb : InsertVerb) : (verb.text.toList ++ [' ']).count '?' = 0 := by cases verb <;> decide
  have insert : "INSERT INTO ".toList.count '?' = 0 := by decide
  have values : ") VALUES ".toList.count '?' = 0 := by decide
  have again : " ON DUPLICATE KEY UPDATE ".toList.count '?' = 0 := by decide
  have delete : "DELETE FROM ".toList.count '?' = 0 := by decide
  have limit : " WHERE ".toList.count '?' = 0 := by decide
  have within : ") in (".toList.count '?' = 0 := by decide
  have update : "UPDATE ".toList.count '?' = 0 := by decide
  have assign : " SET ".toList.count '?' = 0 := by decide
  have select : "SELECT * FROM ".toList.count '?' = 0 := by decide
  cases sql with
  | insert verb table columns rows =>
    unfold tokens slots
    simp only [placeholders_append, placeholders_bares, placeholders_table, placeholders_names, placeholders_tuples,
      verbs, values]
    simp
  | upsert table columns =>
    unfold tokens slots
    simp only [placeholders_append, placeholders_bares, placeholders_table, placeholders_names, placeholders_tuples,
      placeholders_assigned_list false, insert, values, again]
    simp
  | delete table terms =>
    unfold tokens slots
    simp only [placeholders_append, placeholders_bares, placeholders_table, placeholders_condition, delete, limit,
      Nat.zero_add]
  | deleteIn table columns rows =>
    unfold tokens slots
    simp only [placeholders_append, placeholders_bares, placeholders_table, placeholders_names, placeholders_tuples,
      delete, limit, within]
    simp
  | update table columns terms =>
    unfold tokens slots
    simp only [placeholders_append, placeholders_bares, placeholders_table, placeholders_assigned_list true,
      placeholders_condition, update, assign, limit, Nat.zero_add, List.length_append]
  | select table terms =>
    unfold tokens slots
    simp only [placeholders_append, placeholders_bares, placeholders_table, placeholders_condition, select, limit,
      Nat.zero_add]

end Sql

end ChangeApply
