import ChangeApply.Proofs.BoundValues

set_option autoImplicit false

/- What statements do to the rows a table holds. A statement is read from its text, so
   its effect is that of what is written in it and bound to it. A null equals nothing,
   not even a null. -/
namespace ChangeApply

-- How values are compared. Values that are told apart elsewhere may be the same here,
-- such as texts that differ in case.
structure Collation where
  same : Value → Value → Bool
  equivalence : Equivalence fun left right => same left right = true

namespace Collation

def ofKey {α : Type} [DecidableEq α] (key : Value → α) : Collation where
  same left right := decide (key left = key right)
  equivalence := by
    simp only [decide_eq_true_iff]
    exact ⟨fun _ => rfl, Eq.symm, Eq.trans⟩

def folded : Value → Value
  | .string text => .string (Ascii.lower text)
  | value => value

def caseless : Collation := ofKey folded

def equal (collation : Collation) (left right : Value) : Bool :=
  !left.isNull && !right.isNull && collation.same left right

def agree (collation : Collation) (left right : Value) : Bool :=
  (left.isNull && right.isNull) || collation.equal left right

variable (collation : Collation)

theorem equal_iff (left right : Value) :
    collation.equal left right = true ↔
      left.isNull = false ∧ right.isNull = false ∧ collation.same left right = true := by
  simp [equal, and_assoc]

theorem equal_comm (left right : Value) : collation.equal left right = collation.equal right left := by
  have same : collation.same left right = collation.same right left :=
    Bool.eq_iff_iff.mpr ⟨collation.equivalence.symm, collation.equivalence.symm⟩
  rw [equal, equal, same, Bool.and_comm (!left.isNull)]

theorem equal_trans (left middle right : Value) (first : collation.equal left middle = true)
    (second : collation.equal middle right = true) : collation.equal left right = true := by
  rw [equal_iff] at first second ⊢
  exact ⟨first.1, second.2.1, collation.equivalence.trans first.2.2 second.2.2⟩

theorem equal_self (value : Value) (present : value.isNull = false) : collation.equal value value = true :=
  (collation.equal_iff value value).mpr ⟨present, present, collation.equivalence.refl value⟩

theorem agree_of_not_null (left right : Value) (present : right.isNull = false) :
    collation.agree left right = collation.equal left right := by
  simp [agree, present]

theorem equal_null (left right : Value) (null : right.isNull = true) : collation.equal left right = false := by
  simp [equal, null]

theorem equal_eq_agree (left right : Value) : collation.equal left right = (collation.agree left right && !right.isNull) := by
  cases null : right.isNull with
  | true => rw [collation.equal_null left right null, Bool.not_true, Bool.and_false]
  | false => rw [collation.agree_of_not_null left right null, Bool.not_false, Bool.and_true]

end Collation

structure Stored (columns : List String) where
  values : List Value
  whole : values.length = columns.length
deriving DecidableEq

namespace Stored

variable {columns : List String}

def ofCells (columns : List String) (cells : String → Value) : Stored columns :=
  ⟨columns.map cells, List.length_map _⟩

def cell (stored : Stored columns) (column : String) : Value :=
  ((columns.zip stored.values).lookup column).getD .null

def assign (listed : List String) (values : List Value) (stored : Stored columns) : Stored columns :=
  ofCells columns fun column => ((listed.zip values).lookup column).getD (stored.cell column)

def fresh (listed : List String) (values : List Value) : Stored columns :=
  (ofCells columns fun _ => .null).assign listed values

theorem lookup_zip_map (listed : List String) (cells : String → Value) (column : String) (member : column ∈ listed) :
    (listed.zip (listed.map cells)).lookup column = some (cells column) := by
  induction listed with
  | nil => cases member
  | cons name others ih =>
    rw [List.map_cons, List.zip_cons_cons, List.lookup_cons]
    cases same : column == name with
    | true => rw [eq_of_beq same]
    | false =>
      have different : column ≠ name := by simpa using same
      exact ih ((List.mem_cons.mp member).resolve_left different)

theorem cell_of_cells (cells : String → Value) (column : String) (member : column ∈ columns) :
    (ofCells columns cells).cell column = cells column := by
  rw [cell, ofCells, lookup_zip_map columns cells column member, Option.getD_some]

theorem assign_all (listed : List String) (cells : String → Value) (stored : Stored columns)
    (all : columns ⊆ listed) : stored.assign listed (listed.map cells) = ofCells columns cells := by
  have same : columns.map (fun column => ((listed.zip (listed.map cells)).lookup column).getD (stored.cell column)) =
      columns.map cells := by
    refine List.map_congr_left fun column member => ?_
    rw [lookup_zip_map listed cells column (all member), Option.getD_some]
  simp only [assign, ofCells, same]

end Stored

structure Layout where
  name : TableName
  columns : List String
  key : List String
  collation : Collation

namespace Layout

variable (layout : Layout)

abbrev Contents := List (Stored layout.columns)

def conflicts (new old : Stored layout.columns) : Bool :=
  !layout.key.isEmpty && layout.key.all fun column => layout.collation.equal (new.cell column) (old.cell column)

def holds (stored : Stored layout.columns) : List Term → List Value → Bool
  | [], _ => true
  | .isNull column :: terms, params => (stored.cell column).isNull && holds stored terms params
  | .equals column :: terms, param :: params =>
    layout.collation.equal (stored.cell column) param && holds stored terms params
  | .equals _ :: _, [] => false

def equalsTuple (columns : List String) (stored : Stored layout.columns) (tuple : List Value) : Bool :=
  (columns.zip tuple).all fun entry => layout.collation.equal (stored.cell entry.1) entry.2

def tuples (width : Nat) : Nat → List Value → List (List Value)
  | 0, _ => []
  | rows + 1, params => params.take width :: tuples width rows (params.drop width)

def put (new : Stored layout.columns) (contents : layout.Contents) : layout.Contents :=
  contents.filter (fun old => !layout.conflicts new old) ++ [new]

def add (verb : InsertVerb) (new : Stored layout.columns) (contents : layout.Contents) : Option layout.Contents :=
  match verb, contents.any (layout.conflicts new) with
  | .replace, _ => some (layout.put new contents)
  | _, false => some (contents ++ [new])
  | .ignore, true => some contents
  | .plain, true => none

def upsert (new : Stored layout.columns) (change : Stored layout.columns → Stored layout.columns)
    (contents : layout.Contents) : layout.Contents :=
  if contents.any (layout.conflicts new) then
    contents.map fun old => if layout.conflicts new old then change old else old
  else contents ++ [new]

def Lists (columns : List String) : Prop := columns.Nodup ∧ columns ⊆ layout.columns

instance (columns : List String) : Decidable (layout.Lists columns) := inferInstanceAs (Decidable (_ ∧ _))

def effect (params : List Value) (contents : layout.Contents) : Sql → Option layout.Contents
  | .insert verb _ columns rows =>
    if layout.Lists columns then
      (tuples columns.length rows params).foldlM
        (fun contents values => layout.add verb (.fresh columns values) contents) contents
    else none
  | .upsert _ columns =>
    if layout.Lists columns then
      some (layout.upsert (.fresh columns (params.take columns.length))
        (Stored.assign columns (params.drop columns.length)) contents)
    else none
  | .delete _ terms => some (contents.filter fun stored => !layout.holds stored terms params)
  | .deleteIn _ columns rows =>
    some (contents.filter fun stored =>
      !(tuples columns.length rows params).any (layout.equalsTuple columns stored))
  | .update _ columns terms =>
    some (contents.map fun stored =>
      if layout.holds stored terms (params.drop columns.length) then
        stored.assign columns (params.take columns.length)
      else stored)
  | .select _ _ => some contents

def run (statement : Statement) (contents : layout.Contents) : Option layout.Contents := do
  let tokens ← Token.lex statement.sql.toList
  let reading ← Reading.statement tokens
  if reading.sql.target = layout.name ∧ reading.slots.length = statement.params.length then
    layout.effect statement.params contents reading.sql
  else none

def runAll (statements : List Statement) (contents : layout.Contents) : Option layout.Contents :=
  statements.foldlM (fun contents statement => layout.run statement contents) contents

theorem run_of_reads_back (change : RowChange) (table : Table) (template : Template) (statement : Statement)
    (named : layout.name = table.qualified) (read : ReadsBack change table template statement)
    (contents : layout.Contents) :
    layout.run statement contents = layout.effect statement.params contents template.sql := by
  obtain ⟨-, target, tokens, slots, lexed, reading, -, many, -⟩ := read
  have accepted : template.sql.target = layout.name ∧ slots.length = statement.params.length :=
    ⟨target.trans named.symm, many⟩
  simp only [run, lexed, reading, Option.bind_eq_bind, Option.bind_some, if_pos accepted]

theorem run_all_cons (statement : Statement) (rest : List Statement) (contents : layout.Contents) :
    layout.runAll (statement :: rest) contents = layout.run statement contents >>= layout.runAll rest := by
  rw [runAll, List.foldlM_cons]
  rfl

theorem run_all_singleton (statement : Statement) (contents : layout.Contents) :
    layout.runAll [statement] contents = layout.run statement contents := by
  rw [run_all_cons]
  exact bind_pure _

theorem run_all_append (first second : List Statement) (contents : layout.Contents) :
    layout.runAll (first ++ second) contents = layout.runAll first contents >>= layout.runAll second := by
  rw [runAll, List.foldlM_append]
  rfl

theorem tuples_flattened (columns : List String) (rows : List Row) :
    tuples columns.length rows.length (rows.flatMap fun row => row.currents columns) =
      rows.map fun row => row.currents columns := by
  induction rows with
  | nil => rfl
  | cons row rest ih =>
    have width : (row.currents columns).length = columns.length := List.length_map _
    rw [List.flatMap_cons, List.length_cons, tuples, List.take_left' width, List.drop_left' width, ih, List.map_cons]

theorem equals_currents (row : Row) (columns : List String) (stored : Stored layout.columns) :
    layout.equalsTuple columns stored (row.currents columns) =
      columns.all fun column => layout.collation.equal (stored.cell column) (row.current column) := by
  rw [equalsTuple, Row.currents]
  induction columns with
  | nil => rfl
  | cons column others ih => rw [List.map_cons, List.zip_cons_cons, List.all_cons, List.all_cons, ih]

theorem holds_terms (row : Row) (identity : List String) (stored : Stored layout.columns) :
    layout.holds stored (row.terms identity) (row.keyValues identity) =
      identity.all fun column => layout.collation.agree (stored.cell column) (row.current column) := by
  rw [Row.terms, Row.keyValues, Row.currents]
  induction identity with
  | nil => rfl
  | cons column others ih =>
    cases null : (row.current column).isNull with
    | true =>
      have unequal := layout.collation.equal_null (stored.cell column) (row.current column) null
      simpa [null, holds, Collation.agree, unequal] using congrArg ((stored.cell column).isNull && ·) ih
    | false =>
      have agree := layout.collation.agree_of_not_null (stored.cell column) (row.current column) null
      simpa [null, holds, agree] using congrArg (layout.collation.equal (stored.cell column) (row.current column) && ·) ih

end Layout

def Row.agrees (row : Row) (layout : Layout) (identity : List String) (stored : Stored layout.columns) : Bool :=
  identity.all fun column => layout.collation.agree (stored.cell column) (row.current column)

theorem Layout.run_delete (layout : Layout) (table : Table) (named : layout.name = table.qualified)
    (some_identity : table.identity ≠ []) (row : Row) (contents : layout.Contents) :
    layout.run (row.delete table table.identity) contents =
      some (contents.filter fun stored => !row.agrees layout table.identity stored) := by
  have alone : (RowChange.mk .delete [] [row]).rows[0]? = some row := rfl
  have read := Row.delete_reads_back table alone table.identity some_identity
  rw [layout.run_of_reads_back _ table _ _ named read, effect]
  simp only [Row.delete, Table.statement, holds_terms, Row.agrees]

end ChangeApply
