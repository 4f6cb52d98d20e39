import ChangeApply.Change.Plan
import ChangeApply.Proofs.Builder

set_option autoImplicit false

namespace ChangeApply

def faultOr {α : Type} (fault? : Option ChangeFault) (value : α) : Except ChangeFault α :=
  match fault? with
  | some fault => .error fault
  | none => .ok value

theorem map_fault_or {α β : Type} (fault? : Option ChangeFault) (value : α) (f : α → β) :
    (faultOr fault? value).map f = faultOr fault? (f value) := by
  cases fault? <;> rfl

namespace RowChange

def columnFault? (change : RowChange) (table : Table) : Option ChangeFault :=
  if change.visible.isEmpty then some (.withoutColumns table.name) else none

def rowFault? (change : RowChange) (table : Table) : Option ChangeFault :=
  if change.rows.isEmpty then some (.withoutRows table.name) else none

variable (change : RowChange) (table : Table)

theorem visible_or_fault {α : Type} (next : List String → α) :
    (change.requireVisible table >>= fun columns => .ok (next columns)) =
      faultOr (change.columnFault? table) (next change.visible) := by
  rw [requireVisible, columnFault?]
  cases change.visible.isEmpty <;> rfl

theorem rows_or_fault {α : Type} (rest? : Option ChangeFault) (next : Except ChangeFault α) (value : α)
    (rest : next = faultOr rest? value) :
    (change.requireRows table >>= fun _ => next) = faultOr ((change.rowFault? table).or rest?) value := by
  rw [requireRows, rowFault?, rest]
  cases change.rows.isEmpty <;> rfl

end RowChange

namespace Table

def identityFault? (table : Table) : Option ChangeFault :=
  if table.identity.isEmpty then some (.withoutIdentity table.name) else none

theorem identity_or_fault {α : Type} (table : Table) (next : List String → α) :
    (table.requireIdentity >>= fun identity => .ok (next identity)) =
      faultOr table.identityFault? (next table.identity) := by
  rw [requireIdentity, identityFault?]
  cases table.identity.isEmpty <;> rfl

end Table

namespace Builder

def result (builder : Builder) (change : RowChange) (table : Table) : Except ChangeFault Plan :=
  match builder with
  | .upsert => (change.upserts table).map .statements
  | .deleteThenInsert => (change.replacements table).map .statements
  | .delete => (change.deletes table).map .statements
  | .update => (change.updates table).map .statements
  | .select => (change.selects table).map .statements
  | .mergedInsert verb => (change.insertAll table verb).map .merged
  | .mergedUpsert => (change.replaceAll table).map .merged
  | .mergedDelete => (change.deleteAll table).map .merged

def fault? (builder : Builder) (change : RowChange) (table : Table) : Option ChangeFault :=
  match builder with
  | .upsert => change.columnFault? table
  | .deleteThenInsert => change.columnFault? table
  | .delete => table.identityFault?
  | .update => table.identityFault?
  | .select => table.identityFault?
  | .mergedInsert _ => (change.rowFault? table).or (change.columnFault? table)
  | .mergedUpsert => (change.rowFault? table).or (change.columnFault? table)
  | .mergedDelete => (change.rowFault? table).or table.identityFault?

def merged (change : RowChange) (table : Table) (columns : List String) (sql : Sql) : Plan :=
  .merged ⟨sql.text, change.flattened columns, table.name, change.rowCount⟩

def written (builder : Builder) (change : RowChange) (table : Table) : Plan :=
  let columns := change.visible
  let identity := table.identity
  match builder with
  | .upsert => .statements (change.rows.map fun row => row.upsert table columns)
  | .deleteThenInsert => .statements (change.rows.flatMap fun row => row.replacement table identity columns)
  | .delete => .statements (change.rows.map fun row => row.delete table identity)
  | .update => .statements (change.rows.filterMap fun row => row.update table identity columns)
  | .select => .statements (change.rows.map fun row => row.select table identity)
  | .mergedInsert verb => merged change table columns (.insert verb table.qualified columns change.rowCount)
  | .mergedUpsert => merged change table columns (.insert .replace table.qualified columns change.rowCount)
  | .mergedDelete => merged change table identity (.deleteIn table.qualified identity change.rowCount)

theorem fault_congr (builder : Builder) (left right : RowChange) (ofLeft ofRight : Table)
    (visible : left.visible = right.visible) (rows : left.rowCount = right.rowCount) (name : ofLeft.name = ofRight.name)
    (identity : ofLeft.identity = ofRight.identity) : builder.fault? left ofLeft = builder.fault? right ofRight := by
  have empty : left.rows.isEmpty = right.rows.isEmpty := by
    rw [Bool.eq_iff_iff, List.isEmpty_iff_length_eq_zero, List.isEmpty_iff_length_eq_zero]
    exact iff_of_eq (congrArg (· = 0) rows)
  cases builder <;>
    simp only [fault?, RowChange.columnFault?, RowChange.rowFault?, Table.identityFault?, visible, empty, name, identity]

variable (change : RowChange) (table : Table)

theorem insert_all_result (verb : InsertVerb) :
    (change.insertAll table verb).map .merged =
      faultOr (fault? (.mergedInsert verb) change table) (written (.mergedInsert verb) change table) := by
  refine Eq.trans (congrArg _ ?_) (map_fault_or _ _ _)
  exact change.rows_or_fault table _ _ _ (change.visible_or_fault table _)

theorem delete_all_result :
    (change.deleteAll table).map .merged =
      faultOr (fault? .mergedDelete change table) (written .mergedDelete change table) := by
  refine Eq.trans (congrArg _ ?_) (map_fault_or _ _ _)
  exact change.rows_or_fault table _ _ _ (table.identity_or_fault _)

theorem result_eq (builder : Builder) :
    builder.result change table = faultOr (builder.fault? change table) (builder.written change table) := by
  cases builder with
  | upsert => exact (congrArg _ (change.visible_or_fault table _)).trans (map_fault_or _ _ _)
  | deleteThenInsert => exact (congrArg _ (change.visible_or_fault table _)).trans (map_fault_or _ _ _)
  | delete => exact (congrArg _ (table.identity_or_fault _)).trans (map_fault_or _ _ _)
  | update => exact (congrArg _ (table.identity_or_fault _)).trans (map_fault_or _ _ _)
  | select => exact (congrArg _ (table.identity_or_fault _)).trans (map_fault_or _ _ _)
  | mergedInsert verb => exact insert_all_result change table verb
  | mergedUpsert => exact insert_all_result change table .replace
  | mergedDelete => exact delete_all_result change table

end Builder

namespace Plan

def builder : RowAction → Policy → Builder
  | .insert, .rowByRow => .upsert
  | .insert, .replacing => .deleteThenInsert
  | .insert, .merging verb => .mergedInsert verb
  | .insert, .mergingReplace => .mergedUpsert
  | .update, _ => .update
  | .delete, .rowByRow => .delete
  | .delete, .replacing => .delete
  | .delete, .merging _ => .mergedDelete
  | .delete, .mergingReplace => .mergedDelete

theorem of_change_eq (change : RowChange) (table : Table) (policy : Policy) :
    ofChange change table policy =
      if change.rows.isEmpty then .ok (.statements []) else (builder change.action policy).result change table := by
  obtain ⟨action, columns, rows⟩ := change
  cases action <;> cases policy <;> rfl

end Plan

end ChangeApply
