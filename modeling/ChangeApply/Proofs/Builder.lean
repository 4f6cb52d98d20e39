import ChangeApply.Change.Merged

set_option autoImplicit false

namespace ChangeApply

inductive Builder where
  | upsert
  | deleteThenInsert
  | delete
  | update
  | select
  | mergedInsert (verb : InsertVerb)
  | mergedUpsert
  | mergedDelete
deriving DecidableEq

structure Template where
  row : Nat
  sql : Sql

namespace Builder

def single (built : Except ChangeFault MergedStatement) : Except ChangeFault (List Statement) :=
  built.map fun merged => [merged.toStatement]

def build (builder : Builder) (change : RowChange) (table : Table) : Except ChangeFault (List Statement) :=
  match builder with
  | .upsert => change.upserts table
  | .deleteThenInsert => change.replacements table
  | .delete => change.deletes table
  | .update => change.updates table
  | .select => change.selects table
  | .mergedInsert verb => single (change.insertAll table verb)
  | .mergedUpsert => single (change.replaceAll table)
  | .mergedDelete => single (change.deleteAll table)

def changedColumns (change : RowChange) (row : Row) : List String := (row.changedAmong change.visible).map Prod.fst

def rowShapes (builder : Builder) (change : RowChange) (table : Table) (row : Row) : List Sql :=
  let insert : Sql := .insert .plain table.qualified change.visible 1
  let delete : Sql := .delete table.qualified (row.terms table.identity)
  match builder with
  | .upsert => [.upsert table.qualified change.visible]
  | .deleteThenInsert => if table.identity.isEmpty then [insert] else [delete, insert]
  | .delete => [delete]
  | .update =>
    if (changedColumns change row).isEmpty then []
    else [.update table.qualified (changedColumns change row) (row.terms table.identity)]
  | .select => [.select table.qualified (row.terms table.identity)]
  | _ => []

def templates (builder : Builder) (change : RowChange) (table : Table) : List Template :=
  match builder with
  | .mergedInsert verb => [⟨0, .insert verb table.qualified change.visible change.rowCount⟩]
  | .mergedUpsert => [⟨0, .insert .replace table.qualified change.visible change.rowCount⟩]
  | .mergedDelete => [⟨0, .deleteIn table.qualified table.identity change.rowCount⟩]
  | _ => change.rows.zipIdx.flatMap fun entry => (builder.rowShapes change table entry.1).map (⟨entry.2, ·⟩)

variable (change : RowChange) (table : Table)

theorem visible_bind {α : Type} (next : List String → α) (result : α)
    (done : (change.requireVisible table >>= fun columns => .ok (next columns)) = .ok result) :
    change.visible ≠ [] ∧ result = next change.visible := by
  rw [RowChange.requireVisible] at done
  by_cases hidden : change.visible.isEmpty = true
  · rw [if_pos hidden] at done
    cases done
  · rw [if_neg hidden] at done
    cases done
    exact ⟨by simpa using hidden, rfl⟩

theorem identity_bind {α : Type} (next : List String → α) (result : α)
    (done : (table.requireIdentity >>= fun identity => .ok (next identity)) = .ok result) :
    table.identity ≠ [] ∧ result = next table.identity := by
  rw [Table.requireIdentity] at done
  by_cases unaddressed : table.identity.isEmpty = true
  · rw [if_pos unaddressed] at done
    cases done
  · rw [if_neg unaddressed] at done
    cases done
    exact ⟨by simpa using unaddressed, rfl⟩

theorem rows_bind {α : Type} (next : Except ChangeFault α) (result : α)
    (done : (change.requireRows table >>= fun _ => next) = .ok result) : change.rowCount ≠ 0 ∧ next = .ok result := by
  rw [RowChange.requireRows] at done
  by_cases bare : change.rows.isEmpty = true
  · rw [if_pos bare] at done
    cases done
  · rw [if_neg bare] at done
    exact ⟨by simpa [RowChange.rowCount] using bare, done⟩

def Merges (columns : List String) (sql : Sql) (statements : List Statement) : Prop :=
  change.rowCount ≠ 0 ∧ columns ≠ [] ∧ statements = [table.statement sql (change.flattened columns)]

def Made (statements : List Statement) : Builder → Prop
  | .upsert => change.visible ≠ [] ∧ statements = change.rows.map fun row => row.upsert table change.visible
  | .deleteThenInsert =>
    change.visible ≠ [] ∧
      statements = change.rows.flatMap fun row => row.replacement table table.identity change.visible
  | .delete => table.identity ≠ [] ∧ statements = change.rows.map fun row => row.delete table table.identity
  | .update =>
    table.identity ≠ [] ∧ statements = change.rows.filterMap fun row => row.update table table.identity change.visible
  | .select => table.identity ≠ [] ∧ statements = change.rows.map fun row => row.select table table.identity
  | .mergedInsert verb =>
    Merges change table change.visible (.insert verb table.qualified change.visible change.rowCount) statements
  | .mergedUpsert =>
    Merges change table change.visible (.insert .replace table.qualified change.visible change.rowCount) statements
  | .mergedDelete =>
    Merges change table table.identity (.deleteIn table.qualified table.identity change.rowCount) statements

theorem of_single (merged : Except ChangeFault MergedStatement) (statements : List Statement)
    (built : single merged = .ok statements) : ∃ one, merged = .ok one ∧ statements = [one.toStatement] := by
  cases merged with
  | error fault => cases built
  | ok one => cases built; exact ⟨one, rfl, rfl⟩

theorem insert_all_made (verb : InsertVerb) (statements : List Statement)
    (built : single (change.insertAll table verb) = .ok statements) :
    Merges change table change.visible (.insert verb table.qualified change.visible change.rowCount) statements := by
  obtain ⟨merged, outcome, rfl⟩ := of_single _ statements built
  obtain ⟨some_rows, inserted⟩ := rows_bind change table _ merged outcome
  obtain ⟨shown, rfl⟩ := visible_bind change table _ merged inserted
  exact ⟨some_rows, shown, rfl⟩

theorem delete_all_made (statements : List Statement) (built : single (change.deleteAll table) = .ok statements) :
    Merges change table table.identity (.deleteIn table.qualified table.identity change.rowCount) statements := by
  obtain ⟨merged, outcome, rfl⟩ := of_single _ statements built
  obtain ⟨some_rows, deleted⟩ := rows_bind change table _ merged outcome
  obtain ⟨some_identity, rfl⟩ := identity_bind table _ merged deleted
  exact ⟨some_rows, some_identity, rfl⟩

theorem made_of_built (builder : Builder) (statements : List Statement)
    (built : builder.build change table = .ok statements) : builder.Made change table statements := by
  cases builder with
  | upsert => exact visible_bind change table _ statements built
  | deleteThenInsert => exact visible_bind change table _ statements built
  | delete => exact identity_bind table _ statements built
  | update => exact identity_bind table _ statements built
  | select => exact identity_bind table _ statements built
  | mergedInsert verb => exact insert_all_made change table verb statements built
  | mergedUpsert => exact insert_all_made change table .replace statements built
  | mergedDelete => exact delete_all_made change table statements built

end Builder

end ChangeApply
