import ChangeApply.Proofs.Wording

set_option autoImplicit false

namespace ChangeApply

def RowChange.withRows (change : RowChange) (rows : List Row) : RowChange := { change with rows := rows }

namespace Sql

theorem joined_cons {α : Type} (separator item : List α) (rest : List (List α)) (some_rest : rest ≠ []) :
    joined separator (item :: rest) = item ++ separator ++ joined separator rest := by
  cases rest with
  | nil => exact absurd rfl some_rest
  | cons next rest => rfl

theorem joined_append {α : Type} (separator : List α) (first second : List (List α)) (some_first : first ≠ [])
    (some_second : second ≠ []) :
    joined separator (first ++ second) = joined separator first ++ separator ++ joined separator second := by
  induction first with
  | nil => exact absurd rfl some_first
  | cons item rest ih =>
    by_cases last : rest = []
    · rw [last, List.singleton_append, joined_cons separator item second some_second, joined]
    · have more : rest ++ second ≠ [] := List.append_ne_nil_of_left_ne_nil last second
      rw [List.cons_append, joined_cons separator item _ more, ih last, joined_cons separator item rest last]
      simp only [List.append_assoc]

theorem tuples_add (width first second : Nat) (some_first : first ≠ 0) (some_second : second ≠ 0) :
    tuples width (first + second) = tuples width first ++ ',' :: tuples width second := by
  rw [tuples, commas, ← List.replicate_append_replicate, joined_append, List.append_assoc]
  · rfl
  · simpa using some_first
  · simpa using some_second

def insertOpening (verb : InsertVerb) (table : TableName) (columns : List String) : List Char :=
  verb.text.toList ++ ' ' :: tableText table ++ enclosed (nameList columns) ++ " VALUES ".toList

def deleteOpening (table : TableName) (columns : List String) : List Char :=
  "DELETE FROM ".toList ++ tableText table ++ " WHERE ".toList ++ enclosed (nameList columns) ++ " in (".toList

theorem insert_text (verb : InsertVerb) (table : TableName) (columns : List String) (rows : Nat) :
    (Sql.insert verb table columns rows).text.toList = insertOpening verb table columns ++ tuples columns.length rows := by
  rw [text, String.toList_ofList]
  rfl

theorem delete_in_text (table : TableName) (columns : List String) (rows : Nat) :
    (Sql.deleteIn table columns rows).text.toList =
      deleteOpening table columns ++ tuples columns.length rows ++ [')'] := by
  have within : " in (".toList = " in ".toList ++ ['('] := by decide
  rw [text, String.toList_ofList]
  unfold render deleteOpening
  simp only [enclosed, within, List.append_assoc, List.cons_append, List.nil_append]

end Sql

namespace Builder

def merges : Builder → Bool
  | .mergedInsert _ => true
  | .mergedUpsert => true
  | .mergedDelete => true
  | _ => false

def rowStatements (builder : Builder) (columns : List String) (table : Table) (row : Row) : List Statement :=
  match builder with
  | .upsert => [row.upsert table columns]
  | .deleteThenInsert => row.replacement table table.identity columns
  | .delete => [row.delete table table.identity]
  | .update => (row.update table table.identity columns).toList
  | .select => [row.select table table.identity]
  | _ => []

def listed (builder : Builder) (change : RowChange) (table : Table) : List String :=
  match builder with
  | .mergedDelete => table.identity
  | _ => change.visible

def mergedShape (builder : Builder) (change : RowChange) (table : Table) (rows : Nat) : Sql :=
  match builder with
  | .mergedInsert verb => .insert verb table.qualified change.visible rows
  | .mergedDelete => .deleteIn table.qualified table.identity rows
  | _ => .insert .replace table.qualified change.visible rows

def mergedStatement (builder : Builder) (change : RowChange) (table : Table) (rows : List Row) : MergedStatement :=
  ⟨(builder.mergedShape change table rows.length).text, rows.flatMap fun row => row.currents (builder.listed change table),
    table.name, rows.length⟩

def ownFault? (builder : Builder) (change : RowChange) (table : Table) : Option ChangeFault :=
  match builder with
  | .upsert => change.columnFault? table
  | .deleteThenInsert => change.columnFault? table
  | .mergedInsert _ => change.columnFault? table
  | .mergedUpsert => change.columnFault? table
  | _ => table.identityFault?

variable (builder : Builder) (change : RowChange) (table : Table)

theorem build_eq : builder.build change table = faultOr (builder.fault? change table) (builder.written change table).toList := by
  have same : builder.build change table = (builder.result change table).map Plan.toList := by
    cases builder with
    | upsert => rw [build, result]; cases change.upserts table <;> rfl
    | deleteThenInsert => rw [build, result]; cases change.replacements table <;> rfl
    | delete => rw [build, result]; cases change.deletes table <;> rfl
    | update => rw [build, result]; cases change.updates table <;> rfl
    | select => rw [build, result]; cases change.selects table <;> rfl
    | mergedInsert verb => rw [build, result]; cases change.insertAll table verb <;> rfl
    | mergedUpsert => rw [build, result]; cases change.replaceAll table <;> rfl
    | mergedDelete => rw [build, result]; cases change.deleteAll table <;> rfl
  rw [same, result_eq, map_fault_or]

theorem fault_with_rows (rows : List Row) (fits : builder.merges = false ∨ rows ≠ []) :
    builder.fault? (change.withRows rows) table = builder.ownFault? change table := by
  have counted (merging : builder.merges = true) : (change.withRows rows).rowFault? table = none := by
    have some_rows := fits.resolve_left (by simp [merging])
    exact if_neg (by simpa [RowChange.withRows] using some_rows)
  cases builder with
  | upsert => rfl
  | deleteThenInsert => rfl
  | delete => rfl
  | update => rfl
  | select => rfl
  | mergedInsert verb => rw [fault?, counted rfl]; rfl
  | mergedUpsert => rw [fault?, counted rfl]; rfl
  | mergedDelete => rw [fault?, counted rfl]; rfl

theorem written_row_by_row (rows : List Row) (apart : builder.merges = false) :
    (builder.written (change.withRows rows) table).toList = rows.flatMap (builder.rowStatements change.visible table) := by
  cases builder with
  | upsert => exact List.map_eq_flatMap
  | deleteThenInsert => rfl
  | delete => exact List.map_eq_flatMap
  | update => exact List.filterMap_eq_flatMap_toList _ _
  | select => exact List.map_eq_flatMap
  | mergedInsert verb => cases apart
  | mergedUpsert => cases apart
  | mergedDelete => cases apart

theorem written_at_once (rows : List Row) (merging : builder.merges = true) :
    builder.written (change.withRows rows) table = .merged (builder.mergedStatement change table rows) := by
  cases builder with
  | mergedInsert verb => rfl
  | mergedUpsert => rfl
  | mergedDelete => rfl
  | upsert => cases merging
  | deleteThenInsert => cases merging
  | delete => cases merging
  | update => cases merging
  | select => cases merging

theorem build_with_rows (rows : List Row) (apart : builder.merges = false) :
    builder.build (change.withRows rows) table =
      faultOr (builder.ownFault? change table) (rows.flatMap (builder.rowStatements change.visible table)) := by
  rw [build_eq, fault_with_rows builder change table rows (.inl apart), written_row_by_row builder change table rows apart]

theorem result_with_rows (rows : List Row) (merging : builder.merges = true) (some_rows : rows ≠ []) :
    builder.result (change.withRows rows) table =
      faultOr (builder.ownFault? change table) (.merged (builder.mergedStatement change table rows)) := by
  rw [result_eq, fault_with_rows builder change table rows (.inr some_rows), written_at_once builder change table rows merging]

theorem merged_text (merging : builder.merges = true) :
    ∃ opening closing : List Char, (closing = [] ∨ closing = [')']) ∧ ∀ rows : Nat,
      (builder.mergedShape change table rows).text.toList =
        opening ++ Sql.tuples (builder.listed change table).length rows ++ closing := by
  have inserted (verb : InsertVerb) (rows : Nat) :
      (Sql.insert verb table.qualified change.visible rows).text.toList =
        Sql.insertOpening verb table.qualified change.visible ++ Sql.tuples change.visible.length rows ++ [] := by
    rw [List.append_nil, Sql.insert_text]
  cases builder with
  | mergedInsert verb => exact ⟨_, [], .inl rfl, inserted verb⟩
  | mergedUpsert => exact ⟨_, [], .inl rfl, inserted .replace⟩
  | mergedDelete => exact ⟨_, [')'], .inr rfl, Sql.delete_in_text table.qualified table.identity⟩
  | upsert => cases merging
  | deleteThenInsert => cases merging
  | delete => cases merging
  | update => cases merging
  | select => cases merging

end Builder

structure JoinsTuples (width : Nat) (first second both : MergedStatement) : Prop where
  params : both.params = first.params ++ second.params
  rows : both.rowCount = first.rowCount + second.rowCount
  table : first.table = both.table ∧ second.table = both.table
  sql : ∃ opening closing : List Char, (closing = [] ∨ closing = [')']) ∧
    first.sql.toList = opening ++ Sql.tuples width first.rowCount ++ closing ∧
    second.sql.toList = opening ++ Sql.tuples width second.rowCount ++ closing ∧
    both.sql.toList =
      opening ++ (Sql.tuples width first.rowCount ++ ',' :: Sql.tuples width second.rowCount) ++ closing

theorem joins_tuples (builder : Builder) (change : RowChange) (table : Table) (xs ys : List Row)
    (merging : builder.merges = true) (some_xs : xs ≠ []) (some_ys : ys ≠ []) :
    JoinsTuples (builder.listed change table).length (builder.mergedStatement change table xs)
      (builder.mergedStatement change table ys) (builder.mergedStatement change table (xs ++ ys)) where
  params := List.flatMap_append
  rows := List.length_append
  table := ⟨rfl, rfl⟩
  sql := by
    obtain ⟨opening, closing, ends, text⟩ := builder.merged_text change table merging
    refine ⟨opening, closing, ends, text xs.length, text ys.length, ?_⟩
    have counted : xs.length ≠ 0 ∧ ys.length ≠ 0 := by simpa using And.intro some_xs some_ys
    rw [Builder.mergedStatement, List.length_append, text, Sql.tuples_add _ _ _ counted.1 counted.2]
    rfl

structure BindAlike (merged : MergedStatement) (inserts upserts : List Statement) : Prop where
  flattened : merged.params = inserts.flatMap (·.params)
  doubled : List.Forall₂ (fun insert upsert => upsert.params = insert.params ++ insert.params) inserts upserts

theorem inserts_bind_alike (change : RowChange) (table : Table) (columns : List String) (sql : Sql) :
    BindAlike ⟨sql.text, change.flattened columns, table.name, change.rowCount⟩
      (change.rows.map fun row => row.insert table columns) (change.rows.map fun row => row.upsert table columns) where
  flattened := by
    rw [List.flatMap_map]
    rfl
  doubled := by
    rw [List.forall₂_map_left_iff, List.forall₂_map_right_iff]
    exact List.forall₂_same.mpr fun row _ => rfl

theorem insertions_of_replacements (change : RowChange) (table : Table) (identity columns : List String) :
    (change.rows.flatMap fun row => row.replacement table identity columns).filter Statement.isInsertion =
      change.rows.map fun row => row.insert table columns := by
  simp only [List.filter_flatMap, Row.insertions_of_replacement]
  exact List.map_eq_flatMap.symm

theorem inserts_fail_or_bind_alike (change : RowChange) (table : Table) (verb : InsertVerb) (some_rows : change.rows ≠ []) :
    (∃ fault, change.insertAll table verb = .error fault ∧ change.replacements table = .error fault ∧
        change.upserts table = .error fault) ∨
      ∃ merged replacements upserts, change.insertAll table verb = .ok merged ∧
        change.replacements table = .ok replacements ∧ change.upserts table = .ok upserts ∧
        replacements.filter Statement.isInsertion = (change.rows.map fun row => row.insert table change.visible) ∧
        BindAlike merged (replacements.filter Statement.isInsertion) upserts := by
  have counted : change.rowFault? table = none := if_neg (by simpa using some_rows)
  have merged : change.insertAll table verb = faultOr ((change.rowFault? table).or (change.columnFault? table)) _ :=
    change.rows_or_fault table _ _ _ (change.visible_or_fault table _)
  have replacements : change.replacements table = faultOr (change.columnFault? table) _ := change.visible_or_fault table _
  have upserts : change.upserts table = faultOr (change.columnFault? table) _ := change.visible_or_fault table _
  rw [counted, Option.none_or] at merged
  cases found : change.columnFault? table with
  | some fault =>
    rw [found] at merged replacements upserts
    exact .inl ⟨fault, merged, replacements, upserts⟩
  | none =>
    rw [found] at merged replacements upserts
    have insertions := insertions_of_replacements change table table.identity change.visible
    refine .inr ⟨_, _, _, merged, replacements, upserts, insertions, ?_⟩
    rw [insertions]
    exact inserts_bind_alike change table change.visible _

theorem batches_are_written_in_turn (change : RowChange) (table : Table) :
    (∀ (builder : Builder) (xs ys : List Row), builder.merges = false →
      builder.build (change.withRows (xs ++ ys)) table = (do
        let first ← builder.build (change.withRows xs) table
        let second ← builder.build (change.withRows ys) table
        return first ++ second) ∧
      ∀ fault, (builder.build (change.withRows (xs ++ ys)) table = .error fault ↔
          builder.build (change.withRows xs) table = .error fault) ∧
        (builder.build (change.withRows (xs ++ ys)) table = .error fault ↔
          builder.build (change.withRows ys) table = .error fault)) ∧
    (∀ (builder : Builder) (xs ys : List Row), builder.merges = true → xs ≠ [] → ys ≠ [] →
      (∃ fault, builder.result (change.withRows xs) table = .error fault ∧
        builder.result (change.withRows ys) table = .error fault ∧
        builder.result (change.withRows (xs ++ ys)) table = .error fault) ∨
      ∃ first second both, builder.result (change.withRows xs) table = .ok (.merged first) ∧
        builder.result (change.withRows ys) table = .ok (.merged second) ∧
        builder.result (change.withRows (xs ++ ys)) table = .ok (.merged both) ∧
        JoinsTuples (builder.listed change table).length first second both) ∧
    ∀ verb : InsertVerb, change.rows ≠ [] →
      (∃ fault, change.insertAll table verb = .error fault ∧ change.replacements table = .error fault ∧
        change.upserts table = .error fault) ∨
      ∃ merged replacements upserts, change.insertAll table verb = .ok merged ∧
        change.replacements table = .ok replacements ∧ change.upserts table = .ok upserts ∧
        replacements.filter Statement.isInsertion = (change.rows.map fun row => row.insert table change.visible) ∧
        BindAlike merged (replacements.filter Statement.isInsertion) upserts := by
  refine ⟨fun builder xs ys apart => ?_, fun builder xs ys merging some_xs some_ys => ?_,
    inserts_fail_or_bind_alike change table⟩
  · have built (rows : List Row) := builder.build_with_rows change table rows apart
    rw [built, built, built, List.flatMap_append]
    cases builder.ownFault? change table with
    | some fault => exact ⟨rfl, fun _ => ⟨Iff.rfl, Iff.rfl⟩⟩
    | none => exact ⟨rfl, fun _ => ⟨iff_of_false nofun nofun, iff_of_false nofun nofun⟩⟩
  · have result (rows : List Row) := builder.result_with_rows change table rows merging
    rw [result _ some_xs, result _ some_ys, result _ (List.append_ne_nil_of_left_ne_nil some_xs ys)]
    cases builder.ownFault? change table with
    | some fault => exact .inl ⟨fault, rfl, rfl, rfl⟩
    | none =>
      refine .inr ⟨_, _, _, rfl, rfl, rfl, ?_⟩
      exact joins_tuples builder change table xs ys merging some_xs some_ys

def revisedOrder (id : Int64) (changes : List (String × Value)) : Row :=
  (Row.ofPairs [("id", .int id), ("note", .null)]).withChanges changes

def earlierOrders : List Row := [revisedOrder 1 [("note", .null)]]

def laterOrders : List Row := [revisedOrder 2 [], revisedOrder 3 [("id", .int 4)]]

def revisedOrders : RowChange := ⟨.update, [⟨"id", 1⟩, ⟨"note", 2⟩], earlierOrders ++ laterOrders⟩

def revisedTable : Table := (Table.ofNames "shop" "orders" ["id", "note"]).withPrimaryKeys ["id"]

def insertOf (tuples : String) (params : List Value) (rows : Nat) : MergedStatement :=
  ⟨"INSERT INTO `shop`.`orders`(`id`,`note`) VALUES " ++ tuples, params, "orders", rows⟩

def earlierInsert : MergedStatement := insertOf "(?,?)" [.int 1, .null] 1

def laterInsert : MergedStatement := insertOf "(?,?),(?,?)" [.int 2, .null, .int 3, .null] 2

def wholeInsert : MergedStatement :=
  insertOf "(?,?),(?,?),(?,?)" [.int 1, .null, .int 2, .null, .int 3, .null] 3

def insertedOrder (id : Int64) : Statement := (insertOf "(?,?)" [.int id, .null] 1).toStatement

def upsertedOrder (id : Int64) : Statement :=
  ⟨"INSERT INTO `shop`.`orders`(`id`,`note`) VALUES (?,?) ON DUPLICATE KEY UPDATE `id`=?,`note`=?",
    [.int id, .null, .int id, .null], "orders"⟩

theorem revised_orders_are_written_in_turn :
    Builder.update.merges = false ∧
      Builder.update.build (revisedOrders.withRows (earlierOrders ++ laterOrders)) revisedTable =
        .ok ([⟨"UPDATE `shop`.`orders` SET `note`=? WHERE `id`=?", [.null, .int 1], "orders"⟩] ++
          [⟨"UPDATE `shop`.`orders` SET `id`=? WHERE `id`=?", [.int 4, .int 3], "orders"⟩]) ∧
      (Builder.mergedInsert .plain).merges = true ∧ earlierOrders ≠ [] ∧ laterOrders ≠ [] ∧
      (Builder.mergedInsert .plain).result revisedOrders revisedTable = .ok (.merged wholeInsert) ∧
      JoinsTuples 2 earlierInsert laterInsert wholeInsert ∧
      revisedOrders.rows ≠ [] ∧
      revisedOrders.upserts revisedTable = .ok [upsertedOrder 1, upsertedOrder 2, upsertedOrder 3] ∧
      BindAlike wholeInsert [insertedOrder 1, insertedOrder 2, insertedOrder 3]
        [upsertedOrder 1, upsertedOrder 2, upsertedOrder 3] := by
  have apart : Builder.update.merges = false := rfl
  have merging : (Builder.mergedInsert .plain).merges = true := rfl
  have earlier : earlierOrders ≠ [] := List.cons_ne_nil _ _
  have later : laterOrders ≠ [] := List.cons_ne_nil _ _
  have rows : revisedOrders.rows ≠ [] := List.cons_ne_nil _ _
  obtain ⟨row_by_row, at_once, alike⟩ := batches_are_written_in_turn revisedOrders revisedTable
  have inserted : (Builder.mergedInsert .plain).result revisedOrders revisedTable = .ok (.merged wholeInsert) := by
    decide +kernel
  have upserted : revisedOrders.upserts revisedTable = .ok [upsertedOrder 1, upsertedOrder 2, upsertedOrder 3] := by
    decide +kernel
  refine ⟨apart, (row_by_row .update earlierOrders laterOrders apart).1, merging, earlier, later, inserted, ?_,
    rows, upserted, ?_⟩
  · obtain ⟨fault, failed, -⟩ | ⟨first, second, both, one, two, whole, joined⟩ :=
      at_once (.mergedInsert .plain) earlierOrders laterOrders merging earlier later
    · cases failed
    · cases one
      cases two
      cases whole
      exact joined
  · obtain ⟨fault, failed, -⟩ | ⟨merged, replacements, upserts, one, two, three, -, bound⟩ := alike .plain rows
    · cases failed
    · cases one
      cases two
      cases three
      exact bound

end ChangeApply
