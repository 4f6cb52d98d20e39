import ChangeApply.Proofs.Outcome
import Mathlib.Data.List.Forall2
import Mathlib.Logic.Relation

set_option autoImplicit false

namespace ChangeApply

theorem rows_paired (R : Row → Row → Prop) (left right : RowChange) (rows : left.rowCount = right.rowCount)
    (each : ∀ (index : Nat) (first second : Row), index < left.rowCount → left.rows[index]? = some first →
      right.rows[index]? = some second → R first second) : List.Forall₂ R left.rows right.rows := by
  rw [List.forall₂_iff_get]
  refine ⟨rows, fun index inLeft inRight => ?_⟩
  exact each index _ _ inLeft (List.getElem?_eq_getElem inLeft) (List.getElem?_eq_getElem inRight)

section

variable {β : Type} {R : Row → Row → Prop} {left right : List Row}

theorem flat_map_paired (f g : Row → List β) (paired : List.Forall₂ R left right)
    (same : ∀ first second, R first second → f first = g second) : left.flatMap f = right.flatMap g := by
  induction paired with
  | nil => rfl
  | cons related _ ih => rw [List.flatMap_cons, List.flatMap_cons, same _ _ related, ih]

theorem map_paired (f g : Row → β) (paired : List.Forall₂ R left right)
    (same : ∀ first second, R first second → f first = g second) : left.map f = right.map g := by
  rw [List.map_eq_flatMap, List.map_eq_flatMap]
  exact flat_map_paired _ _ paired fun first second related => by rw [same first second related]

theorem filter_map_paired (f g : Row → Option β) (paired : List.Forall₂ R left right)
    (same : ∀ first second, R first second → f first = g second) : left.filterMap f = right.filterMap g := by
  rw [List.filterMap_eq_flatMap_toList, List.filterMap_eq_flatMap_toList]
  exact flat_map_paired _ _ paired fun first second related => by rw [same first second related]

end

namespace Row

structure ShowsSame (columns identity : List String) (first second : Row) : Prop where
  listed : ∀ column ∈ columns, first.current column = second.current column
  addressing : ∀ column ∈ identity, first.current column = second.current column
  changed : ∀ column ∈ columns, first.changed? column = second.changed? column

variable {first second : Row} {columns identity : List String}

theorem currents_congr (names : List String) (same : ∀ column ∈ names, first.current column = second.current column) :
    first.currents names = second.currents names :=
  List.map_congr_left same

theorem terms_congr (names : List String)
    (same : ∀ column ∈ names, (first.current column).isNull = (second.current column).isNull) :
    first.terms names = second.terms names :=
  List.map_congr_left fun column member => by rw [same column member]

theorem changed_among_congr (names : List String) (same : ∀ column ∈ names, first.changed? column = second.changed? column) :
    first.changedAmong names = second.changedAmong names :=
  List.filterMap_congr fun column member => by rw [same column member]

namespace ShowsSame

theorem currents_eq (shows : ShowsSame columns identity first second) :
    first.currents columns = second.currents columns :=
  currents_congr columns shows.listed

theorem terms_eq (shows : ShowsSame columns identity first second) : first.terms identity = second.terms identity :=
  terms_congr identity fun column member => by rw [shows.addressing column member]

theorem key_values_eq (shows : ShowsSame columns identity first second) :
    first.keyValues identity = second.keyValues identity := by
  rw [keyValues, keyValues, currents_congr identity shows.addressing]

end ShowsSame

end Row

structure Matched (left : RowChange) (ofLeft : Table) (right : RowChange) (ofRight : Table) : Prop where
  schema : ofLeft.schema = ofRight.schema
  name : ofLeft.name = ofRight.name
  identity : ofLeft.identity = ofRight.identity
  visible : left.visible = right.visible
  paired : List.Forall₂ (Row.ShowsSame left.visible ofLeft.identity) left.rows right.rows

namespace Matched

variable {left right : RowChange} {ofLeft ofRight : Table}

theorem row_count (matched : Matched left ofLeft right ofRight) : left.rowCount = right.rowCount :=
  matched.paired.length_eq

theorem qualified (matched : Matched left ofLeft right ofRight) : ofLeft.qualified = ofRight.qualified := by
  rw [Table.qualified, Table.qualified, matched.schema, matched.name]

theorem statement (matched : Matched left ofLeft right ofRight) : ofLeft.statement = ofRight.statement := by
  funext sql params
  rw [Table.statement, Table.statement, matched.name]

theorem rows_empty (matched : Matched left ofLeft right ofRight) : left.rows.isEmpty = right.rows.isEmpty := by
  rw [Bool.eq_iff_iff, List.isEmpty_iff_length_eq_zero, List.isEmpty_iff_length_eq_zero, matched.paired.length_eq]

theorem fault (matched : Matched left ofLeft right ofRight) (builder : Builder) :
    builder.fault? left ofLeft = builder.fault? right ofRight :=
  builder.fault_congr left right ofLeft ofRight matched.visible matched.row_count matched.name matched.identity

theorem merged (matched : Matched left ofLeft right ofRight) (names : List String) (sql : Sql)
    (seen : ∀ first second, Row.ShowsSame left.visible ofLeft.identity first second →
      first.currents names = second.currents names) :
    Builder.merged left ofLeft names sql = Builder.merged right ofRight names sql := by
  have flattened : left.flattened names = right.flattened names := flat_map_paired _ _ matched.paired seen
  rw [Builder.merged, Builder.merged, flattened, matched.name, matched.row_count]

theorem written (matched : Matched left ofLeft right ofRight) (builder : Builder) :
    builder.written left ofLeft = builder.written right ofRight := by
  have paired := matched.paired
  cases builder with
  | upsert =>
    simp only [Builder.written, Plan.statements.injEq, ← matched.visible]
    refine map_paired _ _ paired fun first second shows => ?_
    rw [Row.upsert, Row.upsert, matched.statement, matched.qualified, shows.currents_eq]
  | deleteThenInsert =>
    simp only [Builder.written, Plan.statements.injEq, ← matched.visible, ← matched.identity]
    refine flat_map_paired _ _ paired fun first second shows => ?_
    simp only [Row.replacement, Row.insert, Row.delete, matched.statement, matched.qualified, shows.currents_eq,
      shows.terms_eq, shows.key_values_eq]
  | delete =>
    simp only [Builder.written, Plan.statements.injEq, ← matched.identity]
    refine map_paired _ _ paired fun first second shows => ?_
    rw [Row.delete, Row.delete, matched.statement, matched.qualified, shows.terms_eq, shows.key_values_eq]
  | update =>
    simp only [Builder.written, Plan.statements.injEq, ← matched.visible, ← matched.identity]
    refine filter_map_paired _ _ paired fun first second shows => ?_
    simp only [Row.update, matched.statement, matched.qualified, Row.changed_among_congr _ shows.changed,
      shows.terms_eq, shows.key_values_eq]
  | select =>
    simp only [Builder.written, Plan.statements.injEq, ← matched.identity]
    refine map_paired _ _ paired fun first second shows => ?_
    rw [Row.select, Row.select, matched.statement, matched.qualified, shows.terms_eq, shows.key_values_eq]
  | mergedInsert verb =>
    simp only [Builder.written, ← matched.visible, ← matched.qualified, ← matched.row_count]
    exact matched.merged _ _ fun first second shows => shows.currents_eq
  | mergedUpsert =>
    simp only [Builder.written, ← matched.visible, ← matched.qualified, ← matched.row_count]
    exact matched.merged _ _ fun first second shows => shows.currents_eq
  | mergedDelete =>
    simp only [Builder.written, ← matched.identity, ← matched.qualified, ← matched.row_count]
    exact matched.merged _ _ fun first second shows => Row.currents_congr _ shows.addressing

theorem result (matched : Matched left ofLeft right ofRight) (builder : Builder) :
    builder.result left ofLeft = builder.result right ofRight := by
  rw [Builder.result_eq, Builder.result_eq, matched.fault, matched.written]

theorem plan (matched : Matched left ofLeft right ofRight) (action : left.action = right.action) (policy : Policy) :
    Plan.ofChange left ofLeft policy = Plan.ofChange right ofRight policy := by
  rw [Plan.of_change_eq, Plan.of_change_eq, matched.rows_empty, action, matched.result]

end Matched

structure Indistinct (left : RowChange) (ofLeft : Table) (right : RowChange) (ofRight : Table) : Prop where
  schema : ofLeft.schema = ofRight.schema
  name : ofLeft.name = ofRight.name
  identity : ofLeft.identity = ofRight.identity
  visible : left.visible = right.visible
  rows : left.rowCount = right.rowCount
  current : ∀ index < left.rowCount, ∀ column ∈ left.visible ++ ofLeft.identity,
    left.current index column = right.current index column
  changed : ∀ index < left.rowCount, ∀ column ∈ left.visible, left.changed? index column = right.changed? index column

theorem Indistinct.matched {left right : RowChange} {ofLeft ofRight : Table}
    (indistinct : Indistinct left ofLeft right ofRight) : Matched left ofLeft right ofRight := by
  refine ⟨indistinct.schema, indistinct.name, indistinct.identity, indistinct.visible, ?_⟩
  refine rows_paired _ left right indistinct.rows fun index first second inside here there => ?_
  have current (column : String) (seen : column ∈ left.visible ++ ofLeft.identity) :
      first.current column = second.current column := by
    simpa [RowChange.current, here, there] using indistinct.current index inside column seen
  refine ⟨fun column member => ?_, fun column member => ?_, fun column member => ?_⟩
  · exact current column (List.mem_append_left _ member)
  · exact current column (List.mem_append_right _ member)
  · simpa [RowChange.changed?, here, there] using indistinct.changed index inside column member

inductive Retouch (table : Table) : RowChange → RowChange → Prop where
  | addHidden (action : RowAction) (before after : List Column) (column : Column) (rows : List Row)
    (hidden : Identifier.isHidden column.name = true) :
    Retouch table ⟨action, before ++ after, rows⟩ ⟨action, before ++ column :: after, rows⟩
  | removeHidden (action : RowAction) (before after : List Column) (column : Column) (rows : List Row)
    (hidden : Identifier.isHidden column.name = true) :
    Retouch table ⟨action, before ++ column :: after, rows⟩ ⟨action, before ++ after, rows⟩
  | renumber (action : RowAction) (before after : List Column) (column : Column) (ordinal : UInt32) (rows : List Row) :
    Retouch table ⟨action, before ++ column :: after, rows⟩
      ⟨action, before ++ { column with ordinal := ordinal } :: after, rows⟩
  | swapRow (action : RowAction) (columns : List Column) (before after : List Row) (row other : Row)
    (shows : row.ShowsSame (RowChange.visible ⟨action, columns, []⟩) table.identity other) :
    Retouch table ⟨action, columns, before ++ row :: after⟩ ⟨action, columns, before ++ other :: after⟩

namespace Retouch

variable {table : Table} {change edited : RowChange}

theorem action_eq (retouch : Retouch table change edited) : change.action = edited.action := by
  cases retouch <;> rfl

theorem visible_eq (retouch : Retouch table change edited) : change.visible = edited.visible := by
  cases retouch with
  | addHidden action before after column rows hidden => simp [RowChange.visible, hidden]
  | removeHidden action before after column rows hidden => simp [RowChange.visible, hidden]
  | renumber action before after column ordinal rows => simp [RowChange.visible]
  | swapRow action columns before after row other shows => rfl

theorem paired (retouch : Retouch table change edited) :
    List.Forall₂ (Row.ShowsSame change.visible table.identity) change.rows edited.rows := by
  have same (rows : List Row) : List.Forall₂ (Row.ShowsSame change.visible table.identity) rows rows :=
    List.forall₂_same.mpr fun row _ => ⟨fun _ _ => rfl, fun _ _ => rfl, fun _ _ => rfl⟩
  cases retouch with
  | addHidden action before after column rows hidden => exact same rows
  | removeHidden action before after column rows hidden => exact same rows
  | renumber action before after column ordinal rows => exact same rows
  | swapRow action columns before after row other shows =>
    exact List.rel_append (same before) (.cons shows (same after))

theorem matched (retouch : Retouch table change edited) : Matched change table edited table :=
  ⟨rfl, rfl, rfl, retouch.visible_eq, retouch.paired⟩

end Retouch

theorem hidden_and_foreign_data_are_invisible :
    (∀ (left : RowChange) (ofLeft : Table) (right : RowChange) (ofRight : Table),
        Indistinct left ofLeft right ofRight →
          (∀ builder : Builder, builder.result left ofLeft = builder.result right ofRight) ∧
          (left.action = right.action →
            ∀ policy, Plan.ofChange left ofLeft policy = Plan.ofChange right ofRight policy)) ∧
      ∀ (table : Table) (change edited : RowChange), Relation.ReflTransGen (Retouch table) change edited →
        (∀ builder : Builder, builder.result change table = builder.result edited table) ∧
        ∀ policy, Plan.ofChange change table policy = Plan.ofChange edited table policy := by
  constructor
  · intro left ofLeft right ofRight indistinct
    exact ⟨indistinct.matched.result, indistinct.matched.plan⟩
  · intro table change edited edits
    induction edits with
    | refl => exact ⟨fun _ => rfl, fun _ => rfl⟩
    | tail _ retouch ih =>
      refine ⟨fun builder => ?_, fun policy => ?_⟩
      · exact (ih.1 builder).trans (retouch.matched.result builder)
      · exact (ih.2 policy).trans (retouch.matched.plan retouch.action_eq policy)

def notedOrder : RowChange :=
  ⟨.update, [⟨"id", 1⟩, ⟨"note", 2⟩], [(Row.ofPairs [("id", .int 7), ("note", .null)]).withChanges [("note", .string "x")]]⟩

def paddedOrder : RowChange :=
  ⟨.update, [⟨"__#Alibaba_RDS_row_id#__", 1⟩, ⟨"id", 2⟩, ⟨"note", 3⟩],
    [(Row.ofPairs [("__#Alibaba_RDS_row_id#__", .int 99), ("id", .int 7), ("origin", .string "y")]).withChanges
      [("__#Alibaba_RDS_row_id#__", .int 100), ("origin", .null), ("note", .string "x")]]⟩

def notedTable : Table := (Table.ofNames "shop" "orders" ["id", "note"]).withPrimaryKeys ["id"]

def paddedTable : Table :=
  ((Table.ofNames "shop" "orders" ["origin", "__#Alibaba_RDS_row_id#__", "id"]).withPrimaryKeys
    ["__#Alibaba_RDS_row_id#__", "id"]).withUniqueKeys ["origin"]

theorem padded_order_is_written_alike :
    Indistinct notedOrder notedTable paddedOrder paddedTable ∧
      Relation.ReflTransGen (Retouch notedTable) notedOrder paddedOrder ∧
      Builder.update.result paddedOrder paddedTable = Builder.update.result paddedOrder notedTable ∧
      Builder.update.result paddedOrder notedTable =
        .ok (.statements [⟨"UPDATE `shop`.`orders` SET `note`=? WHERE `id`=?", [.string "x", .int 7], "orders"⟩]) := by
  have indistinct : Indistinct notedOrder notedTable paddedOrder paddedTable :=
    ⟨rfl, rfl, by decide, by decide, rfl, by decide, by decide⟩
  have edits : Relation.ReflTransGen (Retouch notedTable) notedOrder paddedOrder := by
    let hidden : Column := ⟨"__#Alibaba_RDS_row_id#__", 1⟩
    refine .head (.addHidden _ [] notedOrder.columns hidden _ (by decide)) ?_
    refine .head (.renumber _ [hidden] [⟨"note", 2⟩] ⟨"id", 1⟩ 2 _) ?_
    refine .head (.renumber _ [hidden, ⟨"id", 2⟩] [] ⟨"note", 2⟩ 3 _) ?_
    exact .single (.swapRow _ paddedOrder.columns [] [] _ _ ⟨by decide, by decide, by decide⟩)
  have alike := (hidden_and_foreign_data_are_invisible.1 _ _ _ _ indistinct).1 .update
  have unchanged := (hidden_and_foreign_data_are_invisible.2 _ _ _ edits).1 .update
  exact ⟨indistinct, edits, alike.symm.trans unchanged, unchanged.symm⟩

end ChangeApply
