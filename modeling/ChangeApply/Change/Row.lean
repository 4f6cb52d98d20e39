import ChangeApply.Table.Basic
import ChangeApply.Value

set_option autoImplicit false

namespace ChangeApply

structure Cells where
  entries : List (String × Value)
  distinct : (entries.map Prod.fst).Nodup
deriving DecidableEq

namespace Cells

def empty : Cells := ⟨[], List.nodup_nil⟩

def put (name : String) (value : Value) : List (String × Value) → List (String × Value)
  | [] => [(name, value)]
  | entry :: rest =>
    if entry.1 = name then (name, value) :: rest else entry :: put name value rest

theorem mem_names_put (name : String) (value : Value) (entries : List (String × Value))
    (other : String) (present : other ∈ (put name value entries).map Prod.fst) :
    other = name ∨ other ∈ entries.map Prod.fst := by
  induction entries with
  | nil => simpa [put] using present
  | cons entry rest ih =>
    by_cases same : entry.1 = name
    · simp only [put, if_pos same, List.map_cons, List.mem_cons] at present ⊢
      rcases present with here | later
      · exact .inl here
      · exact .inr (.inr later)
    · simp only [put, if_neg same, List.map_cons, List.mem_cons] at present ⊢
      rcases present with here | later
      · exact .inr (.inl here)
      · rcases ih later with new | old
        · exact .inl new
        · exact .inr (.inr old)

theorem nodup_names_put (name : String) (value : Value) (entries : List (String × Value))
    (distinct : (entries.map Prod.fst).Nodup) :
    ((put name value entries).map Prod.fst).Nodup := by
  induction entries with
  | nil => simp [put]
  | cons entry rest ih =>
    simp only [List.map_cons, List.nodup_cons] at distinct
    by_cases same : entry.1 = name
    · simp only [put, if_pos same, List.map_cons, List.nodup_cons]
      exact ⟨same ▸ distinct.1, distinct.2⟩
    · simp only [put, if_neg same, List.map_cons, List.nodup_cons]
      refine ⟨fun present => ?_, ih distinct.2⟩
      rcases mem_names_put name value rest entry.1 present with new | old
      · exact same new
      · exact distinct.1 old

def set (cells : Cells) (name : String) (value : Value) : Cells :=
  ⟨put name value cells.entries, nodup_names_put name value cells.entries cells.distinct⟩

def ofPairs (pairs : List (String × Value)) : Cells :=
  pairs.foldl (fun cells pair => cells.set pair.1 pair.2) empty

def get? (cells : Cells) (name : String) : Option Value := cells.entries.lookup name

end Cells

inductive RowAction where
  | insert
  | update
  | delete
deriving DecidableEq

structure Row where
  values : Cells
  changes : Cells
deriving DecidableEq

namespace Row

def ofPairs (values : List (String × Value)) : Row := ⟨Cells.ofPairs values, Cells.empty⟩

def withChanges (row : Row) (changes : List (String × Value)) : Row :=
  { row with changes := Cells.ofPairs changes }

def current (row : Row) (column : String) : Value := (row.values.get? column).getD .null

def changed? (row : Row) (column : String) : Option Value := row.changes.get? column

end Row

structure RowChange where
  action : RowAction
  columns : List Column
  rows : List Row
deriving DecidableEq

namespace RowChange

def rowCount (change : RowChange) : Nat := change.rows.length

def current (change : RowChange) (index : Nat) (column : String) : Value :=
  ((change.rows[index]?).map fun row => row.current column).getD .null

def changed? (change : RowChange) (index : Nat) (column : String) : Option Value :=
  (change.rows[index]?).bind fun row => row.changed? column

end RowChange

end ChangeApply
