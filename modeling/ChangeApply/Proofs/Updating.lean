import ChangeApply.Proofs.Addressing
import ChangeApply.Proofs.Effect
import ChangeApply.Proofs.Planning

set_option autoImplicit false

namespace ChangeApply

namespace Collation

variable (collation : Collation)

theorem agree_comm (left right : Value) : collation.agree left right = collation.agree right left := by
  rw [agree, agree, collation.equal_comm, Bool.and_comm]

theorem agree_trans (left middle right : Value) (first : collation.agree left middle = true)
    (second : collation.agree middle right = true) : collation.agree left right = true := by
  cases nulls : middle.isNull with
  | true =>
    rw [agree_comm, agree, collation.equal_comm, collation.equal_null _ _ nulls, Bool.or_false, nulls] at first
    rw [agree, collation.equal_comm, collation.equal_null _ _ nulls, Bool.or_false, nulls] at second
    rw [Bool.true_and] at first second
    rw [agree, first, second]
    rfl
  | false =>
    rw [collation.agree_of_not_null _ _ nulls] at first
    rw [agree_comm, collation.agree_of_not_null _ _ nulls, collation.equal_comm] at second
    rw [agree, collation.equal_trans left middle right first second, Bool.or_true]

end Collation

namespace Row

theorem lookup_changed (row : Row) (columns : List String) (column : String) :
    (((row.changedAmong columns).map Prod.fst).zip ((row.changedAmong columns).map Prod.snd)).lookup column =
      if column ∈ columns then row.changed? column else none := by
  rw [← List.unzip_fst, ← List.unzip_snd, List.zip_unzip, changedAmong]
  induction columns with
  | nil => rfl
  | cons name rest ih =>
    by_cases same : column = name
    · subst same
      rw [if_pos List.mem_cons_self, List.filterMap_cons]
      cases changed : row.changed? column with
      | none =>
        rw [changed] at ih
        simpa using ih
      | some value => simp
    · have elsewhere : column ∈ name :: rest ↔ column ∈ rest := by simp [same]
      simp only [elsewhere, List.filterMap_cons]
      cases changed : row.changed? name with
      | none => exact ih
      | some value =>
        have different : (column == name) = false := by simpa using same
        rw [Option.map_some, List.lookup_cons, different]
        exact ih

variable (row : Row) (layout : Layout) (identity columns : List String)

def applied (stored : Stored layout.columns) : Stored layout.columns :=
  if row.agrees layout identity stored then
    stored.assign ((row.changedAmong columns).map Prod.fst) ((row.changedAmong columns).map Prod.snd)
  else stored

structure Sets (before after : Stored layout.columns) : Prop where
  taken : row.agrees layout identity before = true → ∀ column ∈ layout.columns,
    after.cell column = if column ∈ columns then (row.changed? column).getD (before.cell column) else before.cell column
  spared : row.agrees layout identity before = false → after = before

theorem sets_applied (stored : Stored layout.columns) :
    row.Sets layout identity columns stored (row.applied layout identity columns stored) where
  taken agreed column member := by
    rw [applied, if_pos agreed, Stored.assign, Stored.cell_of_cells _ _ member, lookup_changed]
    by_cases listed : column ∈ columns
    · rw [if_pos listed, if_pos listed]
    · rw [if_neg listed, if_neg listed, Option.getD_none]
  spared apart := if_neg (by simp [apart])

end Row

theorem filter_map_each {α β : Type} (R : α → β → Prop) (write : α → Option β) (items : List α)
    (each : ∀ item ∈ items, ∀ written, write item = some written → R item written) :
    List.Forall₂ R (items.filter fun item => (write item).isSome) (items.filterMap write) := by
  induction items with
  | nil => exact .nil
  | cons item rest ih =>
    rw [List.forall_mem_cons] at each
    have later := ih each.2
    cases found : write item with
    | none => simpa [found] using later
    | some written => simpa [found] using And.intro (each.1 written found) later

theorem Table.primary_key_identifies (table : Table) (keyed : table.primaryKeys ≠ [])
    (shown : ∀ column ∈ table.primaryKeys, Identifier.isHidden column = false) : table.primaryKeys ⊆ table.identity := by
  have key : table.key = table.primaryKeys := if_neg (by simpa using keyed)
  intro column member
  refine (mem_identity table (key ▸ keyed) column).mpr (.inl ?_)
  rw [key, mem_visible]
  exact ⟨member, shown column member⟩

namespace Layout

variable (layout : Layout) (table : Table)

def Keyed (contents : layout.Contents) : Prop :=
  contents.Pairwise fun first second =>
    ∃ column ∈ table.primaryKeys, layout.collation.agree (first.cell column) (second.cell column) = false

theorem one_agrees (keyed : table.primaryKeys ⊆ table.identity) (contents : layout.Contents)
    (distinct : layout.Keyed table contents) (row : Row) :
    (contents.filter fun stored => row.agrees layout table.identity stored).length ≤ 1 := by
  have apart := distinct.filter fun stored => row.agrees layout table.identity stored
  have agree : ∀ stored ∈ contents.filter fun stored => row.agrees layout table.identity stored,
      ∀ column ∈ table.identity, layout.collation.agree (stored.cell column) (row.current column) = true := by
    intro stored kept
    exact List.all_eq_true.mp (List.mem_filter.mp kept).2
  cases found : contents.filter fun stored => row.agrees layout table.identity stored with
  | nil => exact Nat.zero_le 1
  | cons first rest =>
    rw [found] at apart agree
    cases rest with
    | nil => exact Nat.le_refl 1
    | cons second rest =>
      obtain ⟨column, member, differ⟩ := (List.pairwise_cons.mp apart).1 second List.mem_cons_self
      have one := agree first List.mem_cons_self column (keyed member)
      have other := agree second (List.mem_cons_of_mem _ List.mem_cons_self) column (keyed member)
      rw [layout.collation.agree_comm] at other
      rw [layout.collation.agree_trans _ _ _ one other] at differ
      cases differ

variable (named : layout.name = table.qualified) (addressed : table.identity ≠ [])

include named addressed

theorem run_update (change : RowChange) (row : Row) (member : row ∈ change.rows) (statement : Statement)
    (written : row.update table table.identity change.visible = some statement) (contents : layout.Contents) :
    layout.run statement contents = some (contents.map (row.applied layout table.identity change.visible)) := by
  obtain ⟨first, here⟩ := List.mem_iff_getElem?.mp member
  have read := Row.update_reads_back table here table.identity addressed
  have changed : ¬ (row.changedAmong change.visible).isEmpty = true := by
    intro unchanged
    rw [Row.update, if_pos unchanged] at written
    cases written
  rw [written, Builder.changedColumns, List.isEmpty_map, if_neg changed] at read
  have params : statement.params =
      (row.changedAmong change.visible).map Prod.snd ++ row.keyValues table.identity := by
    rw [Row.update, if_neg changed] at written
    rw [← Option.some.inj written]
    rfl
  have width : ((row.changedAmong change.visible).map Prod.snd).length =
      ((row.changedAmong change.visible).map Prod.fst).length := by
    rw [List.length_map, List.length_map]
  rw [layout.run_of_reads_back change table _ _ named (List.forall₂_cons.mp read).1, effect, params,
    List.take_left' width, List.drop_left' width]
  refine congrArg some (List.map_congr_left fun stored _ => ?_)
  rw [holds_terms, Row.applied, Row.agrees]

theorem run_updates (change : RowChange) (rows : List Row) (within : rows ⊆ change.rows) (contents : layout.Contents) :
    layout.runAll (rows.filterMap fun row => row.update table table.identity change.visible) contents =
      some ((rows.filter fun row => row.isChanged change.visible).foldl
        (fun contents row => contents.map (row.applied layout table.identity change.visible)) contents) := by
  induction rows generalizing contents with
  | nil => rfl
  | cons row rest ih =>
    have later := fun contents => ih (fun one member => within (List.mem_cons_of_mem _ member)) contents
    have some_statement := row.update_is_some table table.identity change.visible
    cases written : row.update table table.identity change.visible with
    | none =>
      rw [written, Option.isSome_none] at some_statement
      rw [List.filterMap_cons_none written, List.filter_cons, ← some_statement]
      exact later contents
    | some statement =>
      rw [written, Option.isSome_some] at some_statement
      have ran := layout.run_update table named addressed change row (within List.mem_cons_self) statement written contents
      rw [List.filterMap_cons_some written, List.filter_cons, ← some_statement, run_all_cons, ran]
      exact later _

end Layout

theorem updates_set_just_what_changed (change : RowChange) (table : Table) (layout : Layout)
    (named : layout.name = table.qualified) (addressed : table.identity ≠ []) :
    ∃ statements, change.updates table = .ok statements ∧
      List.Forall₂ (fun row statement => ∀ contents : layout.Contents, ∃ after, layout.run statement contents = some after ∧
          List.Forall₂ (row.Sets layout table.identity change.visible) contents after)
        (change.rows.filter fun row => row.isChanged change.visible) statements ∧
      (∀ contents : layout.Contents, layout.runAll statements contents =
        some ((change.rows.filter fun row => row.isChanged change.visible).foldl
          (fun contents row => contents.map (row.applied layout table.identity change.visible)) contents)) ∧
      (table.primaryKeys ≠ [] → (∀ column ∈ table.primaryKeys, Identifier.isHidden column = false) →
        ∀ contents : layout.Contents, layout.Keyed table contents → ∀ row ∈ change.rows,
          (contents.filter fun stored => row.agrees layout table.identity stored).length ≤ 1) := by
  have required : table.requireIdentity = .ok table.identity := if_neg (by simpa using addressed)
  have updated : change.updates table =
      .ok (change.rows.filterMap fun row => row.update table table.identity change.visible) := by
    rw [RowChange.updates, required]
    rfl
  refine ⟨_, updated, ?_, layout.run_updates table named addressed change change.rows (List.Subset.refl _), ?_⟩
  · simp only [← Row.update_is_some _ table table.identity]
    refine filter_map_each _ _ change.rows fun row member statement written contents => ?_
    refine ⟨_, layout.run_update table named addressed change row member statement written contents, ?_⟩
    rw [List.forall₂_map_right_iff]
    exact List.forall₂_same.mpr fun stored _ => row.sets_applied layout table.identity change.visible stored
  · intro keyed shown contents distinct row _
    exact layout.one_agrees table (table.primary_key_identifies keyed shown) contents distinct row

def movedTable : Table :=
  (Table.ofNames "shop" "orders" ["__#alibaba_rds_row_id#__", "id", "region", "note"]).withPrimaryKeys ["id", "region"]

def movedLayout : Layout := ⟨movedTable.qualified, movedTable.columnNames, movedTable.primaryKeys, .caseless⟩

def movedOrder (hidden id : Int64) (region note : Value) : Stored movedLayout.columns :=
  ⟨[.int hidden, .int id, region, note], rfl⟩

def movedOrders : RowChange :=
  ⟨.update, movedTable.columns,
    [(Row.ofPairs [("id", .int 1), ("note", .string "a")]).withChanges
      [("note", .null), ("id", .int 5), ("__#alibaba_rds_row_id#__", .int 90)],
     (Row.ofPairs [("id", .int 2), ("region", .string "EU")]).withChanges [("__#alibaba_rds_row_id#__", .int 91)]]⟩

def ordersBeforeMove : movedLayout.Contents :=
  [movedOrder 7 1 .null (.string "a"), movedOrder 8 1 (.string "eu") (.string "b"), movedOrder 9 2 (.string "eu") .null]

def ordersAfterMove : movedLayout.Contents :=
  [movedOrder 7 5 .null .null, movedOrder 8 1 (.string "eu") (.string "b"), movedOrder 9 2 (.string "eu") .null]

theorem order_without_region_is_moved :
    movedLayout.name = movedTable.qualified ∧ movedTable.identity ≠ [] ∧
      ∃ statement, movedOrders.updates movedTable = .ok [statement] ∧
        statement = ⟨"UPDATE `shop`.`orders` SET `id`=?,`note`=? WHERE `id`=? AND `region` IS NULL",
          [.int 5, .null, .int 1], "orders"⟩ ∧
        movedLayout.runAll [statement] ordersBeforeMove = some ordersAfterMove := by
  have named : movedLayout.name = movedTable.qualified := rfl
  have addressed : movedTable.identity ≠ [] := by decide
  obtain ⟨statements, updated, -, ran, -⟩ :=
    updates_set_just_what_changed movedOrders movedTable movedLayout named addressed
  have one : movedOrders.updates movedTable = .ok
      [⟨"UPDATE `shop`.`orders` SET `id`=?,`note`=? WHERE `id`=? AND `region` IS NULL", [.int 5, .null, .int 1], "orders"⟩] :=
    rfl
  have same := Except.ok.inj (updated.symm.trans one)
  refine ⟨named, addressed, _, one, rfl, ?_⟩
  rw [← same, ran]
  exact congrArg some (by decide +kernel)

end ChangeApply
