import ChangeApply.Proofs.Visibility

set_option autoImplicit false

namespace ChangeApply

def Statement.withoutParams (statement : Statement) : Statement := { statement with params := [] }

def MergedStatement.withoutParams (merged : MergedStatement) : MergedStatement := { merged with params := [] }

def Statement.isInsertion (statement : Statement) : Bool := "INSERT".toList.isPrefixOf statement.sql.toList

namespace Plan

def withoutParams : Plan → Plan
  | .statements list => .statements (list.map Statement.withoutParams)
  | .merged statement => .merged statement.withoutParams

def insertions (plan : Plan) : List Statement := plan.toList.filter Statement.isInsertion

end Plan

structure SameLayout (left right : RowChange) : Prop where
  names : left.columns.map (·.name) = right.columns.map (·.name)
  rows : left.rowCount = right.rowCount

structure SameNulls (table : Table) (left right : RowChange) : Prop where
  nulls : ∀ index < left.rowCount, ∀ column ∈ table.identity,
    (left.current index column).isNull = (right.current index column).isNull
  changed : ∀ index < left.rowCount, ∀ column ∈ left.columns, Identifier.isHidden column.name = false →
    (left.changed? index column.name).isSome = (right.changed? index column.name).isSome

namespace Sql

theorem insert_begins (verb : InsertVerb) (table : TableName) (columns : List String) (rows : Nat) :
    verb.text.toList <+: (Sql.insert verb table columns rows).render := by
  unfold render
  simp only [List.append_assoc]
  exact List.prefix_append _ _

theorem delete_begins (table : TableName) (terms : List Term) :
    "DELETE FROM ".toList <+: (Sql.delete table terms).render := by
  unfold render
  simp only [List.append_assoc]
  exact List.prefix_append _ _

end Sql

theorem Table.is_insertion_iff (table : Table) (sql : Sql) (params : List Value) :
    (table.statement sql params).isInsertion = true ↔ "INSERT".toList <+: sql.render := by
  simp only [Statement.isInsertion, Table.statement, Sql.text, String.toList_ofList, List.isPrefixOf_iff_prefix]

namespace Row

structure NullsAlike (columns identity : List String) (first second : Row) : Prop where
  nulls : ∀ column ∈ identity, (first.current column).isNull = (second.current column).isNull
  changed : ∀ column ∈ columns, (first.changed? column).isSome = (second.changed? column).isSome

theorem changed_names (row : Row) (columns : List String) :
    (row.changedAmong columns).map Prod.fst = columns.filter fun column => (row.changed? column).isSome := by
  induction columns with
  | nil => rfl
  | cons column rest ih =>
    rw [changedAmong] at ih ⊢
    cases changed : row.changed? column <;> simp [changed, ih]

theorem update_text (table : Table) (identity columns : List String) (row : Row) :
    (row.update table identity columns).map Statement.withoutParams =
      let changed := columns.filter fun column => (row.changed? column).isSome
      if changed.isEmpty then none
      else some (table.statement (.update table.qualified changed (row.terms identity)) []) := by
  simp only [update, ← changed_names, List.isEmpty_map]
  cases (row.changedAmong columns).isEmpty <;> rfl

variable {first second : Row} {columns identity : List String}

theorem NullsAlike.update_text_eq (alike : NullsAlike columns identity first second) (table : Table) :
    (first.update table identity columns).map Statement.withoutParams =
      (second.update table identity columns).map Statement.withoutParams := by
  have changed : (columns.filter fun column => (first.changed? column).isSome) =
      columns.filter fun column => (second.changed? column).isSome :=
    List.filter_congr alike.changed
  rw [update_text, update_text, changed, terms_congr identity alike.nulls]

theorem insert_is_insertion (table : Table) (columns : List String) (row : Row) :
    (row.insert table columns).isInsertion = true := by
  have plain : "INSERT".toList <+: InsertVerb.plain.text.toList := by decide
  refine (table.is_insertion_iff _ _).mpr ?_
  exact plain.trans (Sql.insert_begins .plain table.qualified columns 1)

theorem delete_is_no_insertion (table : Table) (identity : List String) (row : Row) :
    (row.delete table identity).isInsertion = false := by
  rw [← Bool.not_eq_true]
  intro inserts
  have begins := Sql.delete_begins table.qualified (row.terms identity)
  have shorter : "INSERT".toList <+: "DELETE FROM ".toList :=
    List.prefix_of_prefix_length_le ((table.is_insertion_iff _ _).mp inserts) begins (by decide)
  exact absurd shorter (by decide)

theorem insertions_of_replacement (table : Table) (identity columns : List String) (row : Row) :
    (row.replacement table identity columns).filter Statement.isInsertion = [row.insert table columns] := by
  rw [replacement]
  cases identity.isEmpty with
  | true => simp [insert_is_insertion]
  | false => simp [insert_is_insertion, delete_is_no_insertion]

end Row

namespace Builder

def ignoresValues : Builder → Bool
  | .upsert => true
  | .mergedInsert _ => true
  | .mergedUpsert => true
  | .mergedDelete => true
  | _ => false

def WordedAlike (builder : Builder) (table : Table) (left right : RowChange) : Prop :=
  (builder.result left table).map Plan.withoutParams = (builder.result right table).map Plan.withoutParams

end Builder

namespace SameLayout

variable {left right : RowChange} (table : Table)

theorem visible (layout : SameLayout left right) : left.visible = right.visible := by
  rw [RowChange.visible, RowChange.visible, layout.names]

theorem fault (layout : SameLayout left right) (builder : Builder) :
    builder.fault? left table = builder.fault? right table :=
  builder.fault_congr left right table table layout.visible layout.rows rfl rfl

theorem worded_alike (layout : SameLayout left right) (builder : Builder)
    (written : (builder.written left table).withoutParams = (builder.written right table).withoutParams) :
    builder.WordedAlike table left right := by
  rw [Builder.WordedAlike, Builder.result_eq, Builder.result_eq, map_fault_or, map_fault_or, layout.fault, written]

theorem paired (layout : SameLayout left right) : List.Forall₂ (fun _ _ => True) left.rows right.rows :=
  rows_paired _ left right layout.rows fun _ _ _ _ _ _ => trivial

theorem paired_nulls (layout : SameLayout left right) (nulls : SameNulls table left right) :
    List.Forall₂ (Row.NullsAlike left.visible table.identity) left.rows right.rows := by
  refine rows_paired _ left right layout.rows fun index first second inside here there => ⟨?_, ?_⟩
  · intro column member
    simpa [RowChange.current, here, there] using nulls.nulls index inside column member
  · intro name member
    obtain ⟨⟨column, listed, rfl⟩, shown⟩ :
        (∃ column ∈ left.columns, column.name = name) ∧ Identifier.isHidden name = false := by
      simpa [RowChange.visible] using member
    simpa [RowChange.changed?, here, there] using nulls.changed index inside column listed shown

theorem merged_text (layout : SameLayout left right) (columns : List String) (sql : Sql) :
    (Builder.merged left table columns sql).withoutParams = (Builder.merged right table columns sql).withoutParams := by
  simp only [Builder.merged, Plan.withoutParams, MergedStatement.withoutParams, layout.rows]

theorem ignoring_text (layout : SameLayout left right) (builder : Builder) (ignores : builder.ignoresValues = true) :
    (builder.written left table).withoutParams = (builder.written right table).withoutParams := by
  cases builder with
  | upsert =>
    simp only [Builder.written, Plan.withoutParams, Plan.statements.injEq, List.map_map, layout.visible]
    exact map_paired _ _ layout.paired fun _ _ _ => rfl
  | mergedInsert verb =>
    simp only [Builder.written, layout.visible, layout.rows]
    exact layout.merged_text table _ _
  | mergedUpsert =>
    simp only [Builder.written, layout.visible, layout.rows]
    exact layout.merged_text table _ _
  | mergedDelete =>
    simp only [Builder.written, layout.rows]
    exact layout.merged_text table _ _
  | deleteThenInsert => cases ignores
  | delete => cases ignores
  | update => cases ignores
  | select => cases ignores

theorem text (layout : SameLayout left right) (nulls : SameNulls table left right) (builder : Builder) :
    (builder.written left table).withoutParams = (builder.written right table).withoutParams := by
  have paired := layout.paired_nulls table nulls
  cases builder with
  | deleteThenInsert =>
    simp only [Builder.written, Plan.withoutParams, Plan.statements.injEq, List.map_flatMap, layout.visible]
    refine flat_map_paired _ _ paired fun first second alike => ?_
    simp only [Row.replacement, Row.insert, Row.delete, Row.terms_congr _ alike.nulls]
    cases table.identity.isEmpty <;> rfl
  | delete =>
    simp only [Builder.written, Plan.withoutParams, Plan.statements.injEq, List.map_map]
    refine map_paired _ _ paired fun first second alike => ?_
    simp only [Function.comp_apply, Row.delete, Row.terms_congr _ alike.nulls]
    rfl
  | update =>
    simp only [Builder.written, Plan.withoutParams, Plan.statements.injEq, List.map_filterMap, ← layout.visible]
    exact filter_map_paired _ _ paired fun first second alike => alike.update_text_eq table
  | select =>
    simp only [Builder.written, Plan.withoutParams, Plan.statements.injEq, List.map_map]
    refine map_paired _ _ paired fun first second alike => ?_
    simp only [Function.comp_apply, Row.select, Row.terms_congr _ alike.nulls]
    rfl
  | upsert => exact layout.ignoring_text table .upsert rfl
  | mergedInsert verb => exact layout.ignoring_text table (.mergedInsert verb) rfl
  | mergedUpsert => exact layout.ignoring_text table .mergedUpsert rfl
  | mergedDelete => exact layout.ignoring_text table .mergedDelete rfl

theorem insertions_text (layout : SameLayout left right) :
    (Builder.written .deleteThenInsert left table).insertions.map Statement.withoutParams =
      (Builder.written .deleteThenInsert right table).insertions.map Statement.withoutParams := by
  simp only [Builder.written, Plan.insertions, Plan.toList, List.filter_flatMap, Row.insertions_of_replacement,
    List.map_flatMap, layout.visible]
  exact flat_map_paired _ _ layout.paired fun _ _ _ => rfl

end SameLayout

theorem values_do_not_reach_the_text (table : Table) (left right : RowChange) (layout : SameLayout left right) :
    (SameNulls table left right → ∀ builder : Builder, builder.WordedAlike table left right) ∧
      (∀ builder : Builder, builder.ignoresValues = true → builder.WordedAlike table left right) ∧
      (Builder.deleteThenInsert.result left table).map (fun plan => plan.insertions.map Statement.withoutParams) =
        (Builder.deleteThenInsert.result right table).map fun plan => plan.insertions.map Statement.withoutParams := by
  refine ⟨fun nulls builder => ?_, fun builder ignores => ?_, ?_⟩
  · exact layout.worded_alike table builder (layout.text table nulls builder)
  · exact layout.worded_alike table builder (layout.ignoring_text table builder ignores)
  · rw [Builder.result_eq, Builder.result_eq, map_fault_or, map_fault_or, layout.fault, layout.insertions_text]

def notedWith (changes : List (String × Value)) (id : Int64) : RowChange where
  action := .update
  columns := [⟨"id", 1⟩, ⟨"__#Alibaba_RDS_Row_Id#__", 2⟩, ⟨"note", 3⟩]
  rows := [(Row.ofPairs [("id", .int id), ("note", .null)]).withChanges changes]

def plainlyNoted : RowChange := notedWith [("note", .null)] 7

def hostilelyNoted : RowChange :=
  notedWith [("note", .string "`; DROP TABLE orders; --"), ("__#Alibaba_RDS_Row_Id#__", .int 3)] 8

theorem hostile_note_is_worded_alike :
    SameLayout plainlyNoted hostilelyNoted ∧ SameNulls notedTable plainlyNoted hostilelyNoted ∧
      Builder.update.WordedAlike notedTable plainlyNoted hostilelyNoted := by
  have layout : SameLayout plainlyNoted hostilelyNoted := ⟨rfl, rfl⟩
  have nulls : SameNulls notedTable plainlyNoted hostilelyNoted := ⟨by decide, by decide⟩
  exact ⟨layout, nulls, (values_do_not_reach_the_text notedTable _ _ layout).1 nulls .update⟩

end ChangeApply
