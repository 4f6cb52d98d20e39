import ChangeApply.Proofs.Builder
import ChangeApply.Proofs.Placeholders
import Mathlib.Data.List.Forall2

set_option autoImplicit false

/- Statements read back from their text alone, and the values bound to the placeholders
   found there. A builder makes text and values apart from each other, so that they
   agree has to be proved for each. -/
namespace ChangeApply

def Sql.target : Sql → TableName
  | .insert _ table _ _ => table
  | .upsert table _ => table
  | .delete table _ => table
  | .deleteIn table _ _ => table
  | .update table _ _ => table
  | .select table _ => table

def Slot.value? (slot : Slot) (change : RowChange) (first : Nat) : Option Value :=
  (change.rows[first + slot.row]?).bind fun row =>
    if slot.changed then row.changed? slot.column else some (row.current slot.column)

def ReadsBack (change : RowChange) (table : Table) (template : Template) (statement : Statement) : Prop :=
  template.sql.Filled ∧ template.sql.target = ⟨table.schema, table.name⟩ ∧
    ∃ tokens slots, Token.lex statement.sql.toList = some tokens ∧
      Reading.statement tokens = some ⟨template.sql, slots⟩ ∧
      placeholders tokens = statement.params.length ∧ slots.length = statement.params.length ∧
      ∀ (k : Nat) (slot : Slot), slots[k]? = some slot →
        ∃ value, slot.value? change template.row = some value ∧ statement.params[k]? = some value

theorem reads_back_of_bound (change : RowChange) (table : Table) (first : Nat) (sql : Sql) (params : List Value)
    (filled : sql.Filled) (target : sql.target = table.qualified)
    (bound : sql.slots.map (fun slot => slot.value? change first) = params.map some) :
    ReadsBack change table ⟨first, sql⟩ (table.statement sql params) := by
  have many : sql.slots.length = params.length := by
    simpa only [List.length_map] using congrArg List.length bound
  refine ⟨filled, target, sql.tokens, sql.slots, ?_, sql.tokens_read filled, ?_, many, ?_⟩
  · rw [Table.statement, Sql.text, String.toList_ofList]
    exact sql.lex_render
  · exact sql.placeholders_tokens.trans many
  · intro k slot found
    have same : (sql.slots.map fun slot => slot.value? change first)[k]? = (params.map some)[k]? := by rw [bound]
    rw [List.getElem?_map, List.getElem?_map, found] at same
    cases param : params[k]? with
    | none => simp [param] at same
    | some value =>
      rw [param] at same
      exact ⟨value, Option.some.inj same, param⟩

section

open Reading

variable {change : RowChange} {first : Nat} {row : Row}

theorem bound_columns (here : change.rows[first]? = some row) (columns : List String) :
    (columnSlots false columns).map (fun slot => slot.value? change first) = (row.currents columns).map some := by
  simp [columnSlots, Row.currents, Slot.value?, here]

theorem bound_changes (here : change.rows[first]? = some row) (columns : List String) :
    (columnSlots true ((row.changedAmong columns).map Prod.fst)).map (fun slot => slot.value? change first) =
      ((row.changedAmong columns).map Prod.snd).map some := by
  simp only [columnSlots, List.map_map]
  refine List.map_congr_left fun entry member => ?_
  obtain ⟨column, -, found⟩ := List.mem_filterMap.mp member
  obtain ⟨value, changed, same⟩ := Option.map_eq_some_iff.mp found
  subst same
  simp [Slot.value?, here, changed]

-- A null is asked for without a placeholder, and no value is bound for it.
theorem bound_terms (here : change.rows[first]? = some row) (identity : List String) :
    (termSlots (row.terms identity)).map (fun slot => slot.value? change first) = (row.keyValues identity).map some := by
  induction identity with
  | nil => rfl
  | cons column others ih =>
    rw [termSlots, Row.terms, Row.keyValues, Row.currents] at ih ⊢
    cases null : (row.current column).isNull with
    | true => simpa [null] using ih
    | false => simpa [null, Slot.value?, here] using ih

theorem tuple_slots_singleton (columns : List String) : tupleSlots [columns] = columnSlots false columns := by
  simp [tupleSlots, columnSlots]

theorem bound_rows (columns : List String) (rows : List Row) (offset : Nat)
    (here : ∀ (j : Nat) (row : Row), rows[j]? = some row → change.rows[offset + j]? = some row) :
    (((List.replicate rows.length columns).zipIdx offset).flatMap fun entry =>
        entry.1.map fun column => Slot.mk entry.2 column false).map (fun slot => slot.value? change 0) =
      (rows.flatMap fun row => row.currents columns).map some := by
  induction rows generalizing offset with
  | nil => rfl
  | cons row others ih =>
    have at_offset : change.rows[offset]? = some row := here 0 row rfl
    have later := ih (offset + 1) fun j other found => by
      have shifted := here (j + 1) other found
      rwa [Nat.add_assoc, Nat.add_comm 1 j]
    rw [List.length_cons, List.replicate_succ, List.zipIdx_cons, List.flatMap_cons, List.map_append, later,
      List.flatMap_cons, List.map_append]
    congr 1
    simp [Row.currents, Slot.value?, at_offset]

end

namespace Row

variable {change : RowChange} {first : Nat} {row : Row}

theorem terms_ne_nil (row : Row) (identity : List String) (some_identity : identity ≠ []) : row.terms identity ≠ [] := by
  simpa [terms] using some_identity

theorem upsert_reads_back (table : Table) (here : change.rows[first]? = some row) (columns : List String)
    (shown : columns ≠ []) :
    ReadsBack change table ⟨first, .upsert table.qualified columns⟩ (row.upsert table columns) := by
  refine reads_back_of_bound change table first _ _ shown rfl ?_
  rw [Sql.slots, List.map_append, List.map_append, tuple_slots_singleton, bound_columns here]

theorem insert_reads_back (table : Table) (here : change.rows[first]? = some row) (columns : List String)
    (shown : columns ≠ []) :
    ReadsBack change table ⟨first, .insert .plain table.qualified columns 1⟩ (row.insert table columns) := by
  refine reads_back_of_bound change table first _ _ ⟨shown, Nat.one_ne_zero⟩ rfl ?_
  rw [Sql.slots, List.replicate_one, tuple_slots_singleton, bound_columns here]

theorem delete_reads_back (table : Table) (here : change.rows[first]? = some row) (identity : List String)
    (some_identity : identity ≠ []) :
    ReadsBack change table ⟨first, .delete table.qualified (row.terms identity)⟩ (row.delete table identity) :=
  reads_back_of_bound change table first _ _ (row.terms_ne_nil identity some_identity) rfl (bound_terms here identity)

theorem select_reads_back (table : Table) (here : change.rows[first]? = some row) (identity : List String)
    (some_identity : identity ≠ []) :
    ReadsBack change table ⟨first, .select table.qualified (row.terms identity)⟩ (row.select table identity) :=
  reads_back_of_bound change table first _ _ (row.terms_ne_nil identity some_identity) rfl (bound_terms here identity)

theorem update_reads_back (table : Table) (here : change.rows[first]? = some row) (identity : List String)
    (some_identity : identity ≠ []) :
    List.Forall₂ (ReadsBack change table)
      ((if (Builder.changedColumns change row).isEmpty then []
        else [Sql.update table.qualified (Builder.changedColumns change row) (row.terms identity)]).map (Template.mk first))
      (row.update table identity change.visible).toList := by
  rw [Builder.changedColumns, List.isEmpty_map, Row.update]
  cases unchanged : (row.changedAmong change.visible).isEmpty with
  | true => exact .nil
  | false =>
    have changed : (row.changedAmong change.visible).map Prod.fst ≠ [] := by
      intro none_changed
      rw [List.map_eq_nil_iff.mp none_changed] at unchanged
      cases unchanged
    refine .cons (reads_back_of_bound change table first _ _ ⟨changed, row.terms_ne_nil identity some_identity⟩ rfl ?_) .nil
    rw [Sql.slots, List.map_append, List.map_append, bound_changes here, bound_terms here]

end Row

namespace RowChange

variable (change : RowChange) (table : Table)

theorem rows_read_back (shapes : Row → List Sql) (write : Row → List Statement)
    (each : ∀ (first : Nat) (row : Row), change.rows[first]? = some row →
      List.Forall₂ (ReadsBack change table) ((shapes row).map (Template.mk first)) (write row)) :
    List.Forall₂ (ReadsBack change table)
      (change.rows.zipIdx.flatMap fun entry => (shapes entry.1).map (Template.mk entry.2)) (change.rows.flatMap write) := by
  have paired : List.Forall₂ (fun (entry : Row × Nat) row => entry.1 = row ∧ change.rows[entry.2]? = some row)
      change.rows.zipIdx change.rows := by
    rw [List.forall₂_iff_get]
    refine ⟨List.length_zipIdx, fun index inside _ => ?_⟩
    simp
  refine List.rel_flatMap paired ?_
  rintro ⟨row, first⟩ other ⟨rfl, here⟩
  exact each first row here

end RowChange

namespace Builder

variable (change : RowChange) (table : Table)

theorem merged_reads_back (sql : Sql) (columns : List String) (statements : List Statement)
    (merges : Merges change table columns sql statements)
    (filled : columns ≠ [] → change.rowCount ≠ 0 → sql.Filled) (target : sql.target = table.qualified)
    (slots : sql.slots = Reading.tupleSlots (List.replicate change.rowCount columns)) :
    List.Forall₂ (ReadsBack change table) [⟨0, sql⟩] statements := by
  obtain ⟨some_rows, some_columns, rfl⟩ := merges
  refine .cons (reads_back_of_bound change table 0 sql _ (filled some_columns some_rows) target ?_) .nil
  rw [slots]
  exact bound_rows columns change.rows 0 fun j row found => by rwa [Nat.zero_add]

end Builder

theorem built_statements_read_back (builder : Builder) (change : RowChange) (table : Table) (statements : List Statement)
    (built : builder.build change table = .ok statements) :
    List.Forall₂ (ReadsBack change table) (builder.templates change table) statements := by
  have made := builder.made_of_built change table statements built
  cases builder with
  | upsert =>
    obtain ⟨shown, rfl⟩ := made
    rw [List.map_eq_flatMap]
    refine change.rows_read_back table _ _ fun first row here => ?_
    exact .cons (Row.upsert_reads_back table here change.visible shown) .nil
  | deleteThenInsert =>
    obtain ⟨shown, rfl⟩ := made
    refine change.rows_read_back table _ _ fun first row here => ?_
    have insert := Row.insert_reads_back table here change.visible shown
    cases addressed : table.identity.isEmpty with
    | true =>
      rw [Builder.rowShapes, Row.replacement, if_pos addressed, if_pos addressed]
      exact .cons insert .nil
    | false =>
      have some_identity : table.identity ≠ [] := by simpa using addressed
      rw [Builder.rowShapes, Row.replacement, if_neg (by simp [addressed]), if_neg (by simp [addressed])]
      exact .cons (Row.delete_reads_back table here table.identity some_identity) (.cons insert .nil)
  | delete =>
    obtain ⟨some_identity, rfl⟩ := made
    rw [List.map_eq_flatMap]
    refine change.rows_read_back table _ _ fun first row here => ?_
    exact .cons (Row.delete_reads_back table here table.identity some_identity) .nil
  | update =>
    obtain ⟨some_identity, rfl⟩ := made
    rw [List.filterMap_eq_flatMap_toList]
    refine change.rows_read_back table _ _ fun first row here => ?_
    exact Row.update_reads_back table here table.identity some_identity
  | select =>
    obtain ⟨some_identity, rfl⟩ := made
    rw [List.map_eq_flatMap]
    refine change.rows_read_back table _ _ fun first row here => ?_
    exact .cons (Row.select_reads_back table here table.identity some_identity) .nil
  | mergedInsert verb => exact Builder.merged_reads_back change table _ _ statements made And.intro rfl rfl
  | mergedUpsert => exact Builder.merged_reads_back change table _ _ statements made And.intro rfl rfl
  | mergedDelete => exact Builder.merged_reads_back change table _ _ statements made And.intro rfl rfl

def awkwardTable : Table :=
  (Table.ofNames "shop" "or`ders?" ["i`d", "__#Alibaba_RDS_Row_Id#__", "no,te", "a`=?"]).withPrimaryKeys
    ["i`d", "no,te"]

def awkwardChange : RowChange where
  action := .update
  columns := awkwardTable.columns
  rows := [
    (Row.ofPairs []).withChanges [("__#Alibaba_RDS_Row_Id#__", .int 1)],
    (Row.ofPairs [("i`d", .int 7)]).withChanges [("__#Alibaba_RDS_Row_Id#__", .int 2), ("a`=?", .null)]]

def awkwardUpdate : Statement :=
  ⟨"UPDATE `shop`.`or``ders?` SET `a``=?`=? WHERE `i``d`=? AND `no,te` IS NULL", [.null, .int 7], "or`ders?"⟩

theorem awkward_update_reads_back :
    Builder.update.build awkwardChange awkwardTable = .ok [awkwardUpdate] ∧
      List.Forall₂ (ReadsBack awkwardChange awkwardTable) (Builder.update.templates awkwardChange awkwardTable)
        [awkwardUpdate] := by
  have built : Builder.update.build awkwardChange awkwardTable = .ok [awkwardUpdate] := rfl
  exact ⟨built, built_statements_read_back .update awkwardChange awkwardTable [awkwardUpdate] built⟩

end ChangeApply
