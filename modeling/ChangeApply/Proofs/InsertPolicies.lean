import ChangeApply.Change.Plan
import ChangeApply.Proofs.Addressing
import ChangeApply.Proofs.Overwriting

set_option autoImplicit false

namespace ChangeApply

def Row.stored (row : Row) (columns : List String) : Stored columns := .ofCells columns row.current

def RowChange.storedIn (change : RowChange) (layout : Layout) : layout.Contents :=
  change.rows.map fun row => row.stored layout.columns

def overwritingPolicies : List Policy := [.rowByRow, .replacing, .merging .replace, .mergingReplace]

structure KeyedInsert (change : RowChange) (table : Table) (layout : Layout) : Prop where
  inserts : change.action = .insert
  name_eq : layout.name = table.qualified
  columns_eq : layout.columns = Table.visible table.columnNames
  key_eq : layout.key = table.primaryKeys
  lists_once : change.visible.Nodup
  lists_all : ∀ column, column ∈ change.visible ↔ column ∈ Table.visible table.columnNames
  keyed : table.primaryKeys ≠ []
  key_visible : table.primaryKeys ⊆ Table.visible table.columnNames
  sharded_by_key : table.shardKeys ⊆ table.primaryKeys
  has_key : ∀ row ∈ change.rows, ∀ column ∈ table.primaryKeys, row.current column ≠ .null

namespace KeyedInsert

variable {change : RowChange} {table : Table} {layout : Layout} (fits : KeyedInsert change table layout)

include fits

theorem shown : change.visible ≠ [] := by
  obtain ⟨column, member⟩ := List.exists_mem_of_ne_nil _ fits.keyed
  exact List.ne_nil_of_mem ((fits.lists_all column).mpr (fits.key_visible member))

theorem key_listed (column : String) (member : column ∈ layout.key) : column ∈ layout.columns := by
  rw [fits.columns_eq]
  exact fits.key_visible (fits.key_eq ▸ member)

theorem lists : layout.Lists change.visible :=
  ⟨fits.lists_once, fun column member => fits.columns_eq ▸ (fits.lists_all column).mp member⟩

theorem assign_currents (row : Row) (old : Stored layout.columns) :
    old.assign change.visible (row.currents change.visible) = row.stored layout.columns :=
  old.assign_all change.visible row.current fun column member =>
    (fits.lists_all column).mpr (fits.columns_eq ▸ member)

theorem key_present (row : Row) (member : row ∈ change.rows) (column : String) (of_key : column ∈ layout.key) :
    (row.current column).isNull = false := by
  rw [← Bool.not_eq_true, Value.is_null_iff]
  exact fits.has_key row member column (fits.key_eq ▸ of_key)

theorem conflicts_eq (row : Row) (member : row ∈ change.rows) (old : Stored layout.columns) :
    layout.conflicts (row.stored layout.columns) old = true ↔
      ∀ column ∈ layout.key, layout.collation.agree (old.cell column) (row.current column) = true := by
  have some_key : layout.key ≠ [] := fits.key_eq ▸ fits.keyed
  rw [layout.conflicts_iff, and_iff_right some_key]
  refine forall₂_congr fun column of_key => ?_
  rw [Row.stored, Stored.cell_of_cells _ _ (fits.key_listed column of_key), layout.collation.equal_comm,
    layout.collation.agree_of_not_null _ _ (fits.key_present row member column of_key)]

theorem conflicts_self (row : Row) (member : row ∈ change.rows) :
    layout.conflicts (row.stored layout.columns) (row.stored layout.columns) = true := by
  rw [fits.conflicts_eq row member]
  intro column of_key
  have present := fits.key_present row member column of_key
  rw [Row.stored, Stored.cell_of_cells _ _ (fits.key_listed column of_key),
    layout.collation.agree_of_not_null _ _ present]
  exact layout.collation.equal_self _ present

theorem mem_identity (column : String) : column ∈ table.identity ↔ column ∈ layout.key := by
  have key : table.key = table.primaryKeys := if_neg (by simpa using fits.keyed)
  have shown : column ∈ Table.visible table.primaryKeys ↔ column ∈ table.primaryKeys := by
    rw [Table.mem_visible, and_iff_left_iff_imp]
    exact fun member => ((Table.mem_visible _ _).mp (fits.key_visible member)).2
  rw [Table.mem_identity table (key ▸ fits.keyed), key, shown, fits.key_eq, or_iff_left_iff_imp]
  exact fun member => fits.sharded_by_key member

theorem identity_ne : table.identity ≠ [] := by
  obtain ⟨column, member⟩ := List.exists_mem_of_ne_nil _ fits.keyed
  exact List.ne_nil_of_mem ((fits.mem_identity column).mpr (fits.key_eq ▸ member))

theorem agrees_eq (row : Row) (member : row ∈ change.rows) (old : Stored layout.columns) :
    row.agrees layout table.identity old = layout.conflicts (row.stored layout.columns) old := by
  rw [Bool.eq_iff_iff, fits.conflicts_eq row member, Row.agrees, List.all_eq_true]
  exact forall_congr' fun column => by rw [fits.mem_identity]

theorem upsert_overwrites (row : Row) :
    layout.Overwrites [row.upsert table change.visible] [row.stored layout.columns] := by
  have alone : (RowChange.mk .insert [] [row]).rows[0]? = some row := rfl
  have read := Row.upsert_reads_back table alone change.visible fits.shown
  have width : (row.currents change.visible).length = change.visible.length := List.length_map _
  have replaced : Stored.assign change.visible (row.currents change.visible) = fun _ => row.stored layout.columns :=
    funext (fits.assign_currents row)
  intro contents distinct
  have ran : layout.run (row.upsert table change.visible) contents =
      some (layout.upsert (row.stored layout.columns) (fun _ => row.stored layout.columns) contents) := by
    rw [layout.run_of_reads_back _ table _ _ fits.name_eq read, Layout.effect, if_pos fits.lists]
    simp only [Row.upsert, Table.statement, List.take_left' width, List.drop_left' width, Stored.fresh, replaced]
  refine ⟨_, (layout.run_all_singleton _ contents).trans ran, ?_⟩
  rw [← layout.foldl_put]
  exact layout.upsert_perm _ contents distinct

theorem insert_effect (verb : InsertVerb) (rows : List Row) (contents : layout.Contents) :
    layout.effect (rows.flatMap fun row => row.currents change.visible) contents
        (.insert verb table.qualified change.visible rows.length) =
      rows.foldlM (fun contents row => layout.add verb (row.stored layout.columns) contents) contents := by
  rw [Layout.effect, if_pos fits.lists, Layout.tuples_flattened, List.foldlM_map]
  simp only [Stored.fresh, fits.assign_currents]

theorem run_insert (row : Row) (contents : layout.Contents) :
    layout.run (row.insert table change.visible) contents = layout.add .plain (row.stored layout.columns) contents := by
  have alone : (RowChange.mk .insert [] [row]).rows[0]? = some row := rfl
  have read := Row.insert_reads_back table alone change.visible fits.shown
  have effect := fits.insert_effect .plain [row] contents
  rw [List.flatMap_singleton, List.length_singleton, List.foldlM_cons] at effect
  rw [layout.run_of_reads_back _ table _ _ fits.name_eq read, Row.insert, Table.statement, effect]
  exact bind_pure _

theorem replacement_overwrites (row : Row) (member : row ∈ change.rows) :
    layout.Overwrites (row.replacement table table.identity change.visible) [row.stored layout.columns] := by
  intro contents _
  have addressed : ¬ table.identity.isEmpty = true := by simpa using fits.identity_ne
  have absent : (contents.filter fun old => !layout.conflicts (row.stored layout.columns) old).any
      (layout.conflicts (row.stored layout.columns)) = false := by
    rw [List.any_eq_false]
    intro old kept
    simpa using (List.mem_filter.mp kept).2
  refine ⟨layout.put (row.stored layout.columns) contents, ?_, ?_⟩
  · rw [Row.replacement, if_neg addressed, Layout.run_all_cons, layout.run_delete table fits.name_eq fits.identity_ne,
      Option.bind_eq_bind, Option.bind_some, Layout.run_all_singleton, fits.run_insert]
    simp only [fits.agrees_eq row member]
    exact layout.add_plain _ _ absent
  · rw [← layout.foldl_put]
    exact .rfl

theorem replacing_insert_overwrites (some_rows : change.rows ≠ []) :
    layout.Overwrites
      [table.statement (.insert .replace table.qualified change.visible change.rowCount)
        (change.flattened change.visible)]
      (change.storedIn layout) := by
  have counted : change.rowCount ≠ 0 := by simpa [RowChange.rowCount] using some_rows
  have read := Builder.merged_reads_back change table (.insert .replace table.qualified change.visible change.rowCount)
    change.visible _ ⟨counted, fits.shown, rfl⟩ And.intro rfl rfl
  rw [List.forall₂_cons] at read
  intro contents _
  refine ⟨_, ?_, .rfl⟩
  rw [layout.run_all_singleton, layout.run_of_reads_back _ table _ _ fits.name_eq read.1, Table.statement,
    RowChange.flattened, RowChange.rowCount, fits.insert_effect, ← layout.foldl_put, RowChange.storedIn, List.foldl_map]
  simp only [layout.add_replace]
  exact List.foldlM_pure

theorem visible_ok : change.requireVisible table = .ok change.visible := if_neg (by simpa using fits.shown)

theorem upserts_overwrite :
    ∃ statements, change.upserts table = .ok statements ∧ layout.Overwrites statements (change.storedIn layout) := by
  have written : change.upserts table = .ok (change.rows.flatMap fun row => [row.upsert table change.visible]) := by
    rw [RowChange.upserts, fits.visible_ok, ← List.map_eq_flatMap]
    rfl
  exact ⟨_, written, .flat_map _ _ change.rows fun row _ => fits.upsert_overwrites row⟩

theorem replacements_overwrite :
    ∃ statements, change.replacements table = .ok statements ∧
      layout.Overwrites statements (change.storedIn layout) := by
  have written : change.replacements table =
      .ok (change.rows.flatMap fun row => row.replacement table table.identity change.visible) := by
    rw [RowChange.replacements, fits.visible_ok]
    rfl
  exact ⟨_, written, .flat_map _ _ change.rows fits.replacement_overwrites⟩

theorem replace_all_overwrites (some_rows : change.rows ≠ []) :
    ∃ merged, change.replaceAll table = .ok merged ∧
      layout.Overwrites [merged.toStatement] (change.storedIn layout) := by
  have counted : change.requireRows table = .ok () := if_neg (by simpa using some_rows)
  have written : change.replaceAll table =
      .ok ⟨(Sql.insert .replace table.qualified change.visible change.rowCount).text,
        change.flattened change.visible, table.name, change.rowCount⟩ := by
    rw [RowChange.replaceAll, RowChange.insertAll, counted, fits.visible_ok]
    rfl
  exact ⟨_, written, fits.replacing_insert_overwrites some_rows⟩

theorem plan_overwrites (policy : Policy) (overwrites : policy ∈ overwritingPolicies) :
    ∃ plan, Plan.ofChange change table policy = .ok plan ∧
      layout.Overwrites plan.toList (change.storedIn layout) := by
  by_cases bare : change.rows = []
  · refine ⟨.statements [], by simp only [Plan.ofChange, bare, List.isEmpty_nil, if_true], ?_⟩
    rw [RowChange.storedIn, bare]
    exact .nil
  have some_rows : ¬ change.rows.isEmpty = true := by simpa using bare
  obtain ⟨upserts, upserts_ok, upserts_overwrite⟩ := fits.upserts_overwrite
  obtain ⟨replacements, replacements_ok, replacements_overwrite⟩ := fits.replacements_overwrite
  obtain ⟨merged, replace_ok, replace_overwrites⟩ := fits.replace_all_overwrites bare
  have policies : policy = .rowByRow ∨ policy = .replacing ∨ policy = .merging .replace ∨ policy = .mergingReplace := by
    simpa [overwritingPolicies] using overwrites
  simp only [Plan.ofChange, if_neg some_rows, fits.inserts]
  rcases policies with rfl | rfl | rfl | rfl
  · exact ⟨.statements upserts, congrArg (Except.map Plan.statements) upserts_ok, upserts_overwrite⟩
  · exact ⟨.statements replacements, congrArg (Except.map Plan.statements) replacements_ok, replacements_overwrite⟩
  · exact ⟨.merged merged, congrArg (Except.map Plan.merged) replace_ok, replace_overwrites⟩
  · exact ⟨.merged merged, congrArg (Except.map Plan.merged) replace_ok, replace_overwrites⟩

end KeyedInsert

theorem insert_policies_agree (change : RowChange) (table : Table) (layout : Layout)
    (fits : KeyedInsert change table layout) (contents : layout.Contents) (distinct : layout.Distinct contents)
    (policy again : Policy) (overwrites : policy ∈ overwritingPolicies) (overwrites_again : again ∈ overwritingPolicies) :
    ∃ plan after, Plan.ofChange change table policy = .ok plan ∧ layout.runAll plan.toList contents = some after ∧
      after.Perm (layout.overwritten contents (change.storedIn layout)) ∧ layout.Distinct after ∧
      ∃ replay final, Plan.ofChange change table again = .ok replay ∧ layout.runAll replay.toList after = some final ∧
        final.Perm after := by
  obtain ⟨plan, planned, writes⟩ := fits.plan_overwrites policy overwrites
  obtain ⟨replay, planned_again, writes_again⟩ := fits.plan_overwrites again overwrites_again
  have keyed : ∀ new ∈ change.storedIn layout, layout.conflicts new new = true :=
    List.forall_mem_map.mpr fits.conflicts_self
  obtain ⟨after, ran, perm, distinct_after, final, ran_again, perm_again⟩ :=
    writes.replay writes_again keyed contents distinct
  exact ⟨plan, after, planned, ran, perm, distinct_after, replay, final, planned_again, ran_again, perm_again⟩

def parts : Table :=
  ((Table.ofNames "shop" "parts" ["__#alibaba_rds_row_id#__", "code", "count"]).withPrimaryKeys ["code"]).withShardKeys
    (some "code") (some " ")

def partsLayout : Layout := ⟨parts.qualified, ["code", "count"], ["code"], .caseless⟩

def part (code : String) (count : Int64) : Stored partsLayout.columns := ⟨[.string code, .int count], rfl⟩

def partRow (code : String) (count : Int64) : Row := .ofPairs [("count", .int count), ("code", .string code)]

def countedParts : RowChange :=
  ⟨.insert, [⟨"count", 1⟩, ⟨"__#ALIBABA_RDS_ROW_ID#__", 2⟩, ⟨"code", 3⟩],
    [partRow "A1" 1, partRow "b2" 2, partRow "a1" 3]⟩

def partsBefore : partsLayout.Contents := [part "a1" 0, part "C3" 9]

def partsAfter : partsLayout.Contents := [part "C3" 9, part "b2" 2, part "a1" 3]

theorem parts_fit : KeyedInsert countedParts parts partsLayout where
  inserts := rfl
  name_eq := rfl
  columns_eq := by decide +kernel
  key_eq := rfl
  lists_once := by decide +kernel
  lists_all column := by
    have listed : countedParts.visible = ["count", "code"] := by decide +kernel
    have shown : Table.visible parts.columnNames = ["code", "count"] := by decide +kernel
    rw [listed, shown, List.mem_pair, List.mem_pair, or_comm]
  keyed := List.cons_ne_nil _ _
  key_visible := by decide +kernel
  sharded_by_key := by decide +kernel
  has_key := by decide +kernel

theorem last_of_a_key_wins_whatever_its_case :
    KeyedInsert countedParts parts partsLayout ∧ partsLayout.Distinct partsBefore ∧
      .rowByRow ∈ overwritingPolicies ∧ .mergingReplace ∈ overwritingPolicies ∧
      ∃ plan after, Plan.ofChange countedParts parts .rowByRow = .ok plan ∧
        partsLayout.runAll plan.toList partsBefore = some after ∧ after.Perm partsAfter ∧ partsLayout.Distinct after ∧
        ∃ replay final, Plan.ofChange countedParts parts .mergingReplace = .ok replay ∧
          partsLayout.runAll replay.toList after = some final ∧ final.Perm after := by
  have distinct : partsLayout.Distinct partsBefore := by
    unfold Layout.Distinct
    decide +kernel
  have one_way : Policy.rowByRow ∈ overwritingPolicies := by decide
  have another : Policy.mergingReplace ∈ overwritingPolicies := by decide
  obtain ⟨plan, after, planned, ran, perm, replayed⟩ :=
    insert_policies_agree countedParts parts partsLayout parts_fit partsBefore distinct _ _ one_way another
  have result : partsLayout.overwritten partsBefore (countedParts.storedIn partsLayout) =
      partsAfter := by decide +kernel
  rw [result] at perm
  exact ⟨parts_fit, distinct, one_way, another, plan, after, planned, ran, perm, replayed⟩

end ChangeApply
