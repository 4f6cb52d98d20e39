import ChangeApply.Proofs.Effect

set_option autoImplicit false

/- Rows deleted one by one, and by a single statement. The two part over nulls: a
   statement for one row asks for them by IS NULL, while no tuple equals one. -/
namespace ChangeApply

namespace Row

def lacks (row : Row) (identity : List String) : Bool := identity.any fun column => (row.current column).isNull

theorem equals_currents_eq (row : Row) (layout : Layout) (identity : List String) (stored : Stored layout.columns) :
    layout.equalsTuple identity stored (row.currents identity) =
      (row.agrees layout identity stored && !row.lacks identity) := by
  rw [layout.equals_currents, agrees, lacks]
  induction identity with
  | nil => rfl
  | cons column others ih =>
    rw [List.all_cons, List.all_cons, List.any_cons, ih, layout.collation.equal_eq_agree, Bool.not_or]
    ac_rfl

end Row

namespace RowChange

variable (change : RowChange) (table : Table)

theorem deletes_ok (some_identity : table.identity ≠ []) :
    change.deletes table = .ok (change.rows.map fun row => row.delete table table.identity) := by
  have required : table.requireIdentity = .ok table.identity := if_neg (by simpa using some_identity)
  rw [deletes, required]
  rfl

theorem delete_all_ok (some_rows : change.rows ≠ []) (some_identity : table.identity ≠ []) :
    change.deleteAll table =
      .ok ⟨(Sql.deleteIn table.qualified table.identity change.rowCount).text, change.flattened table.identity,
        table.name, change.rowCount⟩ := by
  have required : table.requireIdentity = .ok table.identity := if_neg (by simpa using some_identity)
  have counted : change.requireRows table = .ok () := if_neg (by simpa using some_rows)
  rw [deleteAll, required, counted]
  rfl

def agreeing (layout : Layout) (identity : List String) (stored : Stored layout.columns) : List Row :=
  change.rows.filter fun row => row.agrees layout identity stored

theorem agreeing_is_empty (layout : Layout) (identity : List String) (stored : Stored layout.columns) :
    (change.agreeing layout identity stored).isEmpty = !change.rows.any fun row => row.agrees layout identity stored := by
  rw [Bool.eq_iff_iff]
  simp [agreeing, List.filter_eq_nil_iff]

theorem agreeing_all_lack (layout : Layout) (identity : List String) (stored : Stored layout.columns) :
    ((change.agreeing layout identity stored).all fun row => row.lacks identity) =
      !change.rows.any fun row => row.agrees layout identity stored && !row.lacks identity := by
  simp only [agreeing, List.all_filter, List.not_any_eq_all_not, Bool.not_and, Bool.not_not]

theorem agreeing_all_lack_of_present (layout : Layout) (identity : List String) (stored : Stored layout.columns)
    (present : ∀ row ∈ change.rows, row.lacks identity = false) :
    ((change.agreeing layout identity stored).all fun row => row.lacks identity) =
      (change.agreeing layout identity stored).isEmpty := by
  cases found : change.agreeing layout identity stored with
  | nil => rfl
  | cons row rest =>
    have member : row ∈ change.rows := by
      have listed : row ∈ change.agreeing layout identity stored := found ▸ List.mem_cons_self
      exact (List.mem_filter.mp listed).1
    rw [List.all_cons, present row member, Bool.false_and, List.isEmpty_cons]

end RowChange

namespace Layout

variable (layout : Layout) (table : Table) (named : layout.name = table.qualified)
  (some_identity : table.identity ≠ [])

include named some_identity

theorem run_deletes_of_rows (rows : List Row) (contents : layout.Contents) :
    layout.runAll (rows.map fun row => row.delete table table.identity) contents =
      some (contents.filter fun stored => !rows.any fun row => row.agrees layout table.identity stored) := by
  induction rows generalizing contents with
  | nil => simp [runAll]
  | cons row rest ih =>
    rw [List.map_cons, run_all_cons, layout.run_delete table named some_identity, Option.bind_eq_bind,
      Option.bind_some, ih, List.filter_filter]
    refine congrArg some (List.filter_congr fun stored _ => ?_)
    rw [List.any_cons, Bool.not_or, Bool.and_comm]

theorem run_deletes (change : RowChange) (statements : List Statement) (deleted : change.deletes table = .ok statements)
    (contents : layout.Contents) :
    layout.runAll statements contents =
      some (contents.filter fun stored => (change.agreeing layout table.identity stored).isEmpty) := by
  rw [change.deletes_ok table some_identity] at deleted
  cases deleted
  rw [layout.run_deletes_of_rows table named some_identity]
  exact congrArg some (List.filter_congr fun stored _ => (change.agreeing_is_empty layout _ stored).symm)

theorem run_delete_all (change : RowChange) (merged : MergedStatement) (some_rows : change.rows ≠ [])
    (deleted : change.deleteAll table = .ok merged) (contents : layout.Contents) :
    layout.run merged.toStatement contents =
      some (contents.filter fun stored =>
        (change.agreeing layout table.identity stored).all fun row => row.lacks table.identity) := by
  rw [change.delete_all_ok table some_rows some_identity] at deleted
  cases deleted
  have counted : change.rowCount ≠ 0 := by simpa [RowChange.rowCount] using some_rows
  have read := Builder.merged_reads_back change table (.deleteIn table.qualified table.identity change.rowCount)
    table.identity _ ⟨counted, some_identity, rfl⟩ And.intro rfl rfl
  rw [List.forall₂_cons] at read
  rw [MergedStatement.toStatement, ← Table.statement, layout.run_of_reads_back _ table _ _ named read.1, effect]
  refine congrArg some (List.filter_congr fun stored _ => ?_)
  rw [Table.statement, RowChange.flattened, RowChange.rowCount, tuples_flattened, List.any_map, change.agreeing_all_lack]
  refine congrArg (!·) (List.any_congr rfl fun row => ?_)
  exact row.equals_currents_eq layout table.identity stored

end Layout

theorem filter_of_weaker {α : Type} (strong weak : α → Bool) (weaker : ∀ one, strong one = true → weak one = true)
    (items : List α) :
    (items.filter strong).Sublist (items.filter weak) ∧
      (items.filter weak).Perm (items.filter strong ++ items.filter fun one => !strong one && weak one) := by
  have both : (items.filter weak).filter strong = items.filter strong := by
    rw [List.filter_filter]
    refine List.filter_congr fun one _ => ?_
    cases only : strong one with
    | false => rfl
    | true => exact weaker one only
  have split := List.filter_append_perm strong (items.filter weak)
  rw [both, List.filter_filter] at split
  exact ⟨both ▸ List.filter_sublist, split.symm⟩

theorem merged_delete_spares_nulls (change : RowChange) (table : Table) (layout : Layout)
    (named : layout.name = table.qualified) (some_rows : change.rows ≠ []) (some_identity : table.identity ≠ [])
    (contents : layout.Contents) :
    let agreeing := change.agreeing layout table.identity
    ∃ statements merged kept left,
      change.deletes table = .ok statements ∧ change.deleteAll table = .ok merged ∧
      layout.runAll statements contents = some kept ∧ layout.run merged.toStatement contents = some left ∧
      kept = contents.filter (fun stored => (agreeing stored).isEmpty) ∧
      ((∀ row ∈ change.rows, row.lacks table.identity = false) → left = kept) ∧
      kept.Sublist left ∧
      left.Perm (kept ++ contents.filter fun stored =>
        !(agreeing stored).isEmpty && (agreeing stored).all fun row => row.lacks table.identity) := by
  intro agreeing
  have deleted := change.deletes_ok table some_identity
  have merged := change.delete_all_ok table some_rows some_identity
  refine ⟨_, _, _, _, deleted, merged, layout.run_deletes table named some_identity change _ deleted contents,
    layout.run_delete_all table named some_identity change _ some_rows merged contents, rfl, fun present => ?_, ?_⟩
  · exact List.filter_congr fun stored _ => change.agreeing_all_lack_of_present layout _ stored present
  · refine filter_of_weaker _ _ (fun stored none_agrees => ?_) contents
    rw [List.isEmpty_iff] at none_agrees
    rw [none_agrees, List.all_nil]

def regionalOrders : Table :=
  (Table.ofNames "shop" "orders" ["id", "region", "note"]).withPrimaryKeys ["id", "region"]

def regionalLayout : Layout := ⟨regionalOrders.qualified, regionalOrders.columnNames, regionalOrders.primaryKeys, .caseless⟩

def regionalOrder (id : Int64) (region : Value) (note : String) : Stored regionalLayout.columns :=
  ⟨[.int id, region, .string note], rfl⟩

def cancelledOrders : RowChange :=
  ⟨.delete, regionalOrders.columns,
    [.ofPairs [("id", .int 1), ("region", .string "EU")], .ofPairs [("id", .int 2)]]⟩

def bookedOrders : regionalLayout.Contents :=
  [regionalOrder 1 (.string "eu") "first", regionalOrder 1 (.string "eu") "first", regionalOrder 2 .null "second",
    regionalOrder 3 .null "third"]

theorem order_without_region_is_spared :
    regionalLayout.name = regionalOrders.qualified ∧ cancelledOrders.rows ≠ [] ∧ regionalOrders.identity ≠ [] ∧
      ∃ statements merged kept left,
        cancelledOrders.deletes regionalOrders = .ok statements ∧
        cancelledOrders.deleteAll regionalOrders = .ok merged ∧
        regionalLayout.runAll statements bookedOrders = some kept ∧
        regionalLayout.run merged.toStatement bookedOrders = some left ∧
        kept = [regionalOrder 3 .null "third"] ∧
        left.Perm [regionalOrder 3 .null "third", regionalOrder 2 .null "second"] := by
  have named : regionalLayout.name = regionalOrders.qualified := rfl
  have some_rows : cancelledOrders.rows ≠ [] := List.cons_ne_nil _ _
  have some_identity : regionalOrders.identity ≠ [] := by decide
  obtain ⟨statements, merged, kept, left, deletes, deleteAll, one_by_one, at_once, kept_eq, -, -, spared⟩ :=
    merged_delete_spares_nulls cancelledOrders regionalOrders regionalLayout named some_rows some_identity bookedOrders
  have only_third : kept = [regionalOrder 3 .null "third"] := kept_eq.trans (by decide +kernel)
  refine ⟨named, some_rows, some_identity, statements, merged, kept, left, deletes, deleteAll, one_by_one, at_once,
    only_third, ?_⟩
  rw [only_third] at spared
  exact spared.trans (by decide +kernel)

end ChangeApply
