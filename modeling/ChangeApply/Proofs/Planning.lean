import ChangeApply.Proofs.Outcome

set_option autoImplicit false

namespace ChangeApply

def Policy.merges : Policy → Bool
  | .merging _ => true
  | .mergingReplace => true
  | _ => false

def Row.isChanged (row : Row) (columns : List String) : Bool := columns.any fun column => (row.changed? column).isSome

theorem Row.changed_among_is_empty (row : Row) (columns : List String) :
    (row.changedAmong columns).isEmpty = !row.isChanged columns := by
  induction columns with
  | nil => rfl
  | cons column rest ih =>
    rw [changedAmong, isChanged] at ih ⊢
    cases changed : row.changed? column with
    | none => simpa [changed] using ih
    | some value => simp [changed]

theorem Row.update_is_some (row : Row) (table : Table) (identity columns : List String) :
    (row.update table identity columns).isSome = row.isChanged columns := by
  have unchanged := row.changed_among_is_empty columns
  cases changed : row.isChanged columns with
  | true =>
    rw [changed] at unchanged
    rw [update, if_neg (by simp [unchanged])]
    rfl
  | false =>
    rw [changed] at unchanged
    rw [update, if_pos (by simp [unchanged])]
    rfl

namespace RowChange

def alters (change : RowChange) (row : Row) : Bool :=
  change.columns.any fun column => !Identifier.isHidden column.name && (row.changed? column.name).isSome

theorem is_changed_visible (change : RowChange) (row : Row) : row.isChanged change.visible = change.alters row := by
  simp [Row.isChanged, visible, alters, List.any_filter, List.any_map, Function.comp_def]

theorem visible_eq_nil_iff (change : RowChange) :
    change.visible = [] ↔ ∀ column ∈ change.columns, Identifier.isHidden column.name = true := by
  simp [visible]

end RowChange

theorem paired_at {α β : Type} (first second : α → β) (items : List α) (index : Nat) (item : α)
    (found : items[index]? = some item) :
    (items.flatMap fun item => [first item, second item])[2 * index]? = some (first item) ∧
      (items.flatMap fun item => [first item, second item])[2 * index + 1]? = some (second item) := by
  induction items generalizing index with
  | nil => cases found
  | cons other rest ih =>
    cases index with
    | zero =>
      cases found
      exact ⟨rfl, rfl⟩
    | succ index =>
      have later := ih index found
      rw [Nat.mul_succ]
      exact later

namespace Plan

def fault? (change : RowChange) (table : Table) : Option ChangeFault :=
  match change.action with
  | .insert => change.columnFault? table
  | _ => table.identityFault?

def count (change : RowChange) (table : Table) (policy : Policy) : Nat :=
  match change.action, policy with
  | .update, _ => change.rows.countP change.alters
  | .insert, .replacing => if table.identity = [] then change.rowCount else 2 * change.rowCount
  | _, _ => change.rowCount

variable (change : RowChange) (table : Table)

theorem builder_fault (policy : Policy) (some_rows : change.rows ≠ []) :
    (builder change.action policy).fault? change table = fault? change table := by
  have counted : change.rowFault? table = none := if_neg (by simpa using some_rows)
  obtain ⟨action, columns, rows⟩ := change
  cases action with
  | insert => cases policy <;> simp only [builder, Builder.fault?, fault?, counted, Option.none_or]
  | update => rfl
  | delete => cases policy <;> simp only [builder, Builder.fault?, fault?, counted, Option.none_or]

theorem of_rows (policy : Policy) (some_rows : change.rows ≠ []) :
    ofChange change table policy =
      faultOr (fault? change table) ((builder change.action policy).written change table) := by
  rw [of_change_eq, if_neg (by simpa using some_rows), Builder.result_eq, builder_fault change table policy some_rows]

theorem fault_iff (fault : ChangeFault) :
    fault? change table = some fault ↔
      change.action = .insert ∧ (∀ column ∈ change.columns, Identifier.isHidden column.name = true) ∧
          fault = .withoutColumns table.name ∨
        change.action ≠ .insert ∧ table.identity = [] ∧ fault = .withoutIdentity table.name := by
  have columns : change.columnFault? table = some fault ↔
      (∀ column ∈ change.columns, Identifier.isHidden column.name = true) ∧ fault = .withoutColumns table.name := by
    rw [RowChange.columnFault?, Option.ite_none_right_eq_some, List.isEmpty_iff, RowChange.visible_eq_nil_iff,
      Option.some.injEq, eq_comm (a := fault)]
  have identity : table.identityFault? = some fault ↔ table.identity = [] ∧ fault = .withoutIdentity table.name := by
    rw [Table.identityFault?, Option.ite_none_right_eq_some, List.isEmpty_iff, Option.some.injEq, eq_comm (a := fault)]
  cases action : change.action <;> simp [fault?, action, columns, identity]

theorem fault_or_error {α : Type} (fault? : Option ChangeFault) (value : α) (fault : ChangeFault) :
    faultOr fault? value = .error fault ↔ fault? = some fault := by
  cases fault? <;> simp [faultOr]

theorem fault_or_ok {α : Type} (fault? : Option ChangeFault) (value result : α) :
    faultOr fault? value = .ok result ↔ fault? = none ∧ value = result := by
  cases fault? <;> simp [faultOr]

theorem written_merges (policy : Policy) :
    (∃ merged, (builder change.action policy).written change table = .merged merged) ↔
      change.action ≠ .update ∧ policy.merges = true := by
  obtain ⟨action, columns, rows⟩ := change
  cases action <;> cases policy <;> simp [builder, Builder.written, Builder.merged, Policy.merges]

theorem written_rows (policy : Policy) (merged : MergedStatement)
    (written : (builder change.action policy).written change table = .merged merged) :
    merged.rowCount = change.rowCount := by
  obtain ⟨action, columns, rows⟩ := change
  cases action with
  | insert =>
    cases policy with
    | rowByRow => nomatch written
    | replacing => nomatch written
    | merging verb => rw [← Plan.merged.inj written]
    | mergingReplace => rw [← Plan.merged.inj written]
  | update => nomatch written
  | delete =>
    cases policy with
    | rowByRow => nomatch written
    | replacing => nomatch written
    | merging verb => rw [← Plan.merged.inj written]
    | mergingReplace => rw [← Plan.merged.inj written]

theorem replacements_count (identity columns : List String) (rows : List Row) :
    (rows.flatMap fun row => row.replacement table identity columns).length =
      if identity = [] then rows.length else 2 * rows.length := by
  rw [List.length_flatMap]
  by_cases unaddressed : identity = []
  · simp [Row.replacement, unaddressed, List.map_const']
  · simp [Row.replacement, unaddressed, List.map_const', Nat.mul_comm]

theorem updates_count (identity columns : List String) (rows : List Row) :
    (rows.filterMap fun row => row.update table identity columns).length = rows.countP fun row => row.isChanged columns := by
  simp only [List.length_filterMap_eq_countP, Row.update_is_some]

theorem written_count (policy : Policy) (list : List Statement)
    (written : (builder change.action policy).written change table = .statements list) :
    list.length = count change table policy := by
  obtain ⟨action, columns, rows⟩ := change
  cases action with
  | insert =>
    cases policy with
    | rowByRow => rw [← Plan.statements.inj written]; exact List.length_map _
    | replacing => rw [← Plan.statements.inj written]; exact replacements_count table _ _ rows
    | merging verb => nomatch written
    | mergingReplace => nomatch written
  | update =>
    rw [← Plan.statements.inj written, updates_count]
    exact List.countP_congr fun row _ => by rw [RowChange.is_changed_visible]
  | delete =>
    cases policy with
    | rowByRow => rw [← Plan.statements.inj written]; exact List.length_map _
    | replacing => rw [← Plan.statements.inj written]; exact List.length_map _
    | merging verb => nomatch written
    | mergingReplace => nomatch written

theorem written_pairs (addressed : table.identity ≠ []) (index : Nat) (row : Row) (found : change.rows[index]? = some row)
    (list : List Statement) (written : Builder.written .deleteThenInsert change table = .statements list) :
    list[2 * index]? = some (row.delete table table.identity) ∧
      list[2 * index + 1]? = some (row.insert table change.visible) := by
  cases written
  have pair (row : Row) : row.replacement table table.identity change.visible =
      [row.delete table table.identity, row.insert table change.visible] := if_neg (by simpa using addressed)
  simp only [pair]
  exact paired_at _ _ change.rows index row found

theorem count_eq_zero (policy : Policy) (some_rows : change.rows ≠ []) :
    count change table policy = 0 ↔ change.action = .update ∧ ∀ row ∈ change.rows, change.alters row = false := by
  have counted : change.rowCount ≠ 0 := by simpa [RowChange.rowCount] using some_rows
  cases action : change.action with
  | insert =>
    cases policy with
    | replacing =>
      have twice : 2 * change.rowCount ≠ 0 := by omega
      by_cases addressed : table.identity = [] <;> simp [count, action, addressed, counted, twice]
    | rowByRow => simp [count, action, counted]
    | merging verb => simp [count, action, counted]
    | mergingReplace => simp [count, action, counted]
  | update => simp [count, action, List.countP_eq_zero]
  | delete => simp [count, action, counted]

end Plan

structure Planned (change : RowChange) (table : Table) (policy : Policy) (plan : Plan) : Prop where
  merges : (∃ merged, plan = .merged merged) ↔ change.action ≠ .update ∧ policy.merges = true
  rows : ∀ merged, plan = .merged merged → merged.rowCount = change.rowCount
  count : ∀ list, plan = .statements list → list.length = Plan.count change table policy
  pairs : change.action = .insert → policy = .replacing → table.identity ≠ [] →
    ∀ list, plan = .statements list → ∀ (index : Nat) (row : Row), change.rows[index]? = some row →
      list[2 * index]? = some (row.delete table table.identity) ∧
        list[2 * index + 1]? = some (row.insert table
          ((change.columns.map Column.name).filter fun name => !Identifier.isHidden name))
  empty : plan.isEmpty = true ↔ change.action = .update ∧ ∀ row ∈ change.rows, change.alters row = false

theorem planned_of_written (change : RowChange) (table : Table) (policy : Policy) (some_rows : change.rows ≠ []) :
    Planned change table policy ((Plan.builder change.action policy).written change table) where
  merges := Plan.written_merges change table policy
  rows := Plan.written_rows change table policy
  count := Plan.written_count change table policy
  pairs := by
    intro inserts replacing addressed list written index row found
    rw [inserts, replacing] at written
    exact Plan.written_pairs change table addressed index row found list written
  empty := by
    cases written : (Plan.builder change.action policy).written change table with
    | statements list =>
      rw [← Plan.count_eq_zero change table policy some_rows, ← Plan.written_count change table policy list written]
      simp [Plan.isEmpty, Plan.size]
    | merged merged =>
      have kept := ((Plan.written_merges change table policy).mp ⟨merged, written⟩).1
      simp [Plan.isEmpty, Plan.size, kept]

theorem plans_fail_alike_and_are_counted (change : RowChange) (table : Table) :
    (change.rows = [] → ∀ policy, Plan.ofChange change table policy = .ok (.statements [])) ∧
      (change.rows ≠ [] → ∀ policy fault, Plan.ofChange change table policy = .error fault ↔
        change.action = .insert ∧ (∀ column ∈ change.columns, Identifier.isHidden column.name = true) ∧
            fault = .withoutColumns table.name ∨
          change.action ≠ .insert ∧ table.identity = [] ∧ fault = .withoutIdentity table.name) ∧
      ((∃ fault, ∀ policy, Plan.ofChange change table policy = .error fault) ∨
        ∀ policy, ∃ plan, Plan.ofChange change table policy = .ok plan) ∧
      (∀ policy name column, Plan.ofChange change table policy ≠ .error (.withoutRows name) ∧
        Plan.ofChange change table policy ≠ .error (.strayKey name column)) ∧
      (change.rows ≠ [] → ∀ policy plan, Plan.ofChange change table policy = .ok plan →
        Planned change table policy plan) := by
  by_cases bare : change.rows = []
  · have nothing (policy : Policy) : Plan.ofChange change table policy = .ok (.statements []) := by
      rw [Plan.of_change_eq, bare, List.isEmpty_nil, if_pos rfl]
    refine ⟨fun _ => nothing, fun some_rows => absurd bare some_rows, .inr fun policy => ⟨_, nothing policy⟩, ?_,
      fun some_rows => absurd bare some_rows⟩
    intro policy name column
    rw [nothing policy]
    exact ⟨nofun, nofun⟩
  have planned (policy : Policy) := Plan.of_rows change table policy bare
  have fails (policy : Policy) (fault : ChangeFault) : Plan.ofChange change table policy = .error fault ↔
      change.action = .insert ∧ (∀ column ∈ change.columns, Identifier.isHidden column.name = true) ∧
          fault = .withoutColumns table.name ∨
        change.action ≠ .insert ∧ table.identity = [] ∧ fault = .withoutIdentity table.name := by
    rw [planned, Plan.fault_or_error, Plan.fault_iff]
  refine ⟨fun empty => absurd empty bare, fun _ => fails, ?_, fun policy name column => ⟨?_, ?_⟩, fun _ policy plan ok => ?_⟩
  · cases found : Plan.fault? change table with
    | some fault => exact .inl ⟨fault, fun policy => by rw [planned, found]; rfl⟩
    | none => exact .inr fun policy => ⟨_, by rw [planned, found]; rfl⟩
  · rw [Ne, fails]
    rintro (⟨-, -, other⟩ | ⟨-, -, other⟩) <;> cases other
  · rw [Ne, fails]
    rintro (⟨-, -, other⟩ | ⟨-, -, other⟩) <;> cases other
  · rw [planned, Plan.fault_or_ok] at ok
    rw [← ok.2]
    exact planned_of_written change table policy bare

def correctedOrders : RowChange :=
  ⟨.insert, [⟨"id", 1⟩, ⟨"note", 2⟩, ⟨"__#ALIBABA_RDS_ROW_ID#__", 3⟩],
    [.ofPairs [("id", .int 1), ("note", .null), ("__#ALIBABA_RDS_ROW_ID#__", .int 8)],
      .ofPairs [("id", .int 2), ("note", .string "x"), ("__#ALIBABA_RDS_ROW_ID#__", .int 9)]]⟩

def renumberedOrders : RowChange :=
  { correctedOrders with
    action := .update
    rows := [(Row.ofPairs [("id", .int 1)]).withChanges [("__#ALIBABA_RDS_ROW_ID#__", .int 7)],
      (Row.ofPairs [("id", .int 2)]).withChanges [("note", .null), ("__#ALIBABA_RDS_ROW_ID#__", .int 7)]] }

def numberedOrders : RowChange :=
  { correctedOrders with columns := [⟨"__#ALIBABA_RDS_ROW_ID#__", 3⟩] }

def correctedTable : Table := (Table.ofNames "shop" "orders" ["id", "note"]).withPrimaryKeys ["id"]

theorem corrected_orders_are_planned_in_pairs :
    correctedOrders.rows ≠ [] ∧ correctedTable.identity ≠ [] ∧
      (∃ list, Plan.ofChange correctedOrders correctedTable .replacing = .ok (.statements list) ∧ list.length = 4 ∧
        list[2]? = some ⟨"DELETE FROM `shop`.`orders` WHERE `id`=?", [.int 2], "orders"⟩ ∧
        list[3]? = some ⟨"INSERT INTO `shop`.`orders`(`id`,`note`) VALUES (?,?)", [.int 2, .string "x"], "orders"⟩) ∧
      (∃ list, Plan.ofChange renumberedOrders correctedTable .mergingReplace = .ok (.statements list) ∧
        list.length = 1) ∧
      Plan.ofChange numberedOrders correctedTable .replacing = .error (.withoutColumns "orders") := by
  have some_rows : correctedOrders.rows ≠ [] := List.cons_ne_nil _ _
  have addressed : correctedTable.identity ≠ [] := by decide
  obtain ⟨list, planned⟩ : ∃ list, Plan.ofChange correctedOrders correctedTable .replacing = .ok (.statements list) :=
    ⟨_, rfl⟩
  have counted := (plans_fail_alike_and_are_counted correctedOrders correctedTable).2.2.2.2 some_rows _ _ planned
  have pair := counted.pairs rfl rfl addressed list rfl 1 _ rfl
  obtain ⟨updates, updated⟩ :
      ∃ list, Plan.ofChange renumberedOrders correctedTable .mergingReplace = .ok (.statements list) := ⟨_, rfl⟩
  have altered := (plans_fail_alike_and_are_counted renumberedOrders correctedTable).2.2.2.2 (List.cons_ne_nil _ _) _ _
    updated
  have fails := (plans_fail_alike_and_are_counted numberedOrders correctedTable).2.1 some_rows .replacing
  refine ⟨some_rows, addressed, ⟨list, planned, counted.count list rfl, pair.1, pair.2⟩,
    ⟨updates, updated, altered.count updates rfl⟩, ?_⟩
  exact (fails _).mpr (.inl ⟨rfl, by decide, rfl⟩)

end ChangeApply
