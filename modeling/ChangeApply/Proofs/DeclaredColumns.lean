import ChangeApply.Proofs.AddressOrder
import ChangeApply.Proofs.BoundValues

set_option autoImplicit false

/- Whether the columns that a sound table is addressed by are columns of the table. The
   check of a table looks at its key lists and not at its shard keys, and a predicate
   asks for both. -/
namespace ChangeApply

def Term.column : Term → String
  | .equals column => column
  | .isNull column => column

namespace Sql

def conditionColumns : Sql → List String
  | .insert _ _ _ _ => []
  | .upsert _ _ => []
  | .delete _ terms => terms.map Term.column
  | .deleteIn _ columns _ => columns
  | .update _ _ terms => terms.map Term.column
  | .select _ terms => terms.map Term.column

theorem read_text (sql : Sql) (filled : sql.Filled) :
    Token.lex sql.text.toList = some sql.tokens ∧ Reading.statement sql.tokens = some ⟨sql, sql.slots⟩ := by
  rw [text, String.toList_ofList]
  exact ⟨sql.lex_render, sql.tokens_read filled⟩

end Sql

theorem Row.columns_of_terms (row : Row) (identity : List String) : (row.terms identity).map Term.column = identity := by
  rw [terms, List.map_map]
  apply List.map_id''
  intro column
  by_cases null : (row.current column).isNull = true <;> simp [null, Term.column]

namespace Builder

variable (change : RowChange) (table : Table)

def AsksForIdentity (statement : Statement) : Prop :=
  ∃ sql : Sql, sql.Filled ∧ statement.sql = sql.text ∧
    (sql.conditionColumns = [] ∨ sql.conditionColumns = table.identity)

section

variable {change table}

theorem asks_of_filled (sql : Sql) (params : List Value) (filled : sql.Filled)
    (asks : sql.conditionColumns = [] ∨ sql.conditionColumns = table.identity) :
    AsksForIdentity table (table.statement sql params) :=
  ⟨sql, filled, rfl, asks⟩

theorem upsert_asks (shown : change.visible ≠ []) (row : Row) : AsksForIdentity table (row.upsert table change.visible) :=
  asks_of_filled (.upsert table.qualified change.visible) _ shown (.inl rfl)

theorem insert_asks (shown : change.visible ≠ []) (row : Row) : AsksForIdentity table (row.insert table change.visible) :=
  asks_of_filled (.insert .plain table.qualified change.visible 1) _ ⟨shown, Nat.one_ne_zero⟩ (.inl rfl)

theorem delete_asks (some_identity : table.identity ≠ []) (row : Row) :
    AsksForIdentity table (row.delete table table.identity) := by
  apply asks_of_filled (.delete table.qualified (row.terms table.identity))
  · exact row.terms_ne_nil table.identity some_identity
  · exact .inr (row.columns_of_terms table.identity)

theorem select_asks (some_identity : table.identity ≠ []) (row : Row) :
    AsksForIdentity table (row.select table table.identity) := by
  apply asks_of_filled (.select table.qualified (row.terms table.identity))
  · exact row.terms_ne_nil table.identity some_identity
  · exact .inr (row.columns_of_terms table.identity)

theorem update_asks (some_identity : table.identity ≠ []) (row : Row) (statement : Statement)
    (updated : row.update table table.identity change.visible = some statement) : AsksForIdentity table statement := by
  rw [Row.update] at updated
  by_cases unchanged : (row.changedAmong change.visible).isEmpty = true
  · rw [if_pos unchanged] at updated
    cases updated
  · rw [if_neg unchanged] at updated
    cases updated
    apply asks_of_filled (.update table.qualified _ (row.terms table.identity))
    · have changed : (row.changedAmong change.visible).map Prod.fst ≠ [] := by simpa using unchanged
      exact ⟨changed, row.terms_ne_nil table.identity some_identity⟩
    · exact .inr (row.columns_of_terms table.identity)

theorem replacement_asks (shown : change.visible ≠ []) (row : Row) :
    ∀ statement ∈ row.replacement table table.identity change.visible, AsksForIdentity table statement := by
  have inserted : AsksForIdentity table (row.insert table change.visible) := insert_asks shown row
  by_cases unaddressed : table.identity.isEmpty = true
  · rw [Row.replacement, if_pos unaddressed, List.forall_mem_singleton]
    exact inserted
  · have some_identity : table.identity ≠ [] := by simpa using unaddressed
    rw [Row.replacement, if_neg unaddressed, List.forall_mem_cons, List.forall_mem_singleton]
    exact ⟨delete_asks some_identity row, inserted⟩

theorem merged_asks {sql : Sql} {columns : List String} {statements : List Statement}
    (merges : Merges change table columns sql statements) (filled : columns ≠ [] → change.rowCount ≠ 0 → sql.Filled)
    (asks : sql.conditionColumns = [] ∨ sql.conditionColumns = table.identity) :
    ∀ statement ∈ statements, AsksForIdentity table statement := by
  obtain ⟨some_rows, some_columns, rfl⟩ := merges
  rw [List.forall_mem_singleton]
  exact asks_of_filled sql _ (filled some_columns some_rows) asks

end

theorem asks_for_identity (builder : Builder) (statements : List Statement)
    (built : builder.build change table = .ok statements) :
    ∀ statement ∈ statements, AsksForIdentity table statement := by
  have made := builder.made_of_built change table statements built
  cases builder with
  | upsert =>
    obtain ⟨shown, rfl⟩ := made
    rw [List.forall_mem_map]
    exact fun row _ => upsert_asks shown row
  | deleteThenInsert =>
    obtain ⟨shown, rfl⟩ := made
    intro statement member
    obtain ⟨row, -, written⟩ := List.mem_flatMap.mp member
    exact replacement_asks shown row statement written
  | delete =>
    obtain ⟨some_identity, rfl⟩ := made
    rw [List.forall_mem_map]
    exact fun row _ => delete_asks some_identity row
  | update =>
    obtain ⟨some_identity, rfl⟩ := made
    intro statement member
    obtain ⟨row, -, written⟩ := List.mem_filterMap.mp member
    exact update_asks some_identity row statement written
  | select =>
    obtain ⟨some_identity, rfl⟩ := made
    rw [List.forall_mem_map]
    exact fun row _ => select_asks some_identity row
  | mergedInsert verb => exact merged_asks made And.intro (.inl rfl)
  | mergedUpsert => exact merged_asks made And.intro (.inl rfl)
  | mergedDelete => exact merged_asks made And.intro (.inr rfl)

end Builder

namespace Table

variable (table : Table)

theorem check_iff : table.check = .ok () ↔
    table.columns ≠ [] ∧ ∀ key ∈ table.primaryKeys ++ table.uniqueKeys, key ∈ table.columnNames := by
  by_cases bare : table.columns.isEmpty = true
  · have none_declared : table.columns = [] := List.isEmpty_iff.mp bare
    rw [check, if_pos bare]
    exact iff_of_false nofun fun sound => sound.1 none_declared
  · have some_columns : table.columns ≠ [] := by simpa using bare
    have declared : (∀ key ∈ table.primaryKeys ++ table.uniqueKeys, key ∈ table.columnNames) ↔
        (table.primaryKeys ++ table.uniqueKeys).find? (fun key => !table.declares key) = none := by
      simp only [List.find?_eq_none, declares, Bool.not_eq_true', List.contains_eq_mem, decide_eq_false_iff_not,
        Classical.not_not]
    rw [check, if_neg bare, and_iff_right some_columns, declared]
    cases (table.primaryKeys ++ table.uniqueKeys).find? (fun key => !table.declares key) with
    | none => exact iff_of_true rfl rfl
    | some key => exact iff_of_false nofun nofun

def DeclaresShardKeys : Prop :=
  ∀ shardKey ∈ table.shardKeysInTurn, Blank.trim shardKey.toList ≠ [] → shardKey ∈ table.columnNames

section

variable {table}

theorem declared_of_sound (sound : table.check = .ok ()) (column : String)
    (listed : column ∈ table.primaryKeys ∨ column ∈ table.uniqueKeys) : column ∈ table.columnNames :=
  (table.check_iff.mp sound).2 column (List.mem_append.mpr listed)

theorem key_declared (sound : table.check = .ok ()) : table.key ⊆ table.columnNames := by
  intro column member
  have declared := declared_of_sound sound column
  by_cases none_declared : table.primaryKeys = []
  · rw [table.key_without_primary none_declared] at member
    exact declared (.inr member)
  · rw [table.key_of_primary none_declared] at member
    exact declared (.inl member)

theorem address_declared_iff (sound : table.check = .ok ()) :
    table.address ⊆ table.columnNames ↔ table.key = [] ∨ table.DeclaresShardKeys := by
  by_cases keyless : table.key = []
  · rw [table.address_without_key keyless]
    exact iff_of_true (List.Subset.refl _) (.inl keyless)
  · rw [or_iff_right keyless]
    constructor
    · intro declared shardKey turn unblank
      exact declared ((table.mem_address keyless shardKey).mpr (.inr ⟨turn, unblank⟩))
    · intro shards column member
      rcases (table.mem_address keyless column).mp member with inside | ⟨turn, unblank⟩
      · exact key_declared sound inside
      · exact shards column turn unblank

theorem unique_address_declared_iff (sound : table.check = .ok ()) :
    table.uniqueAddress ⊆ table.columnNames ↔ table.address ⊆ table.columnNames := by
  by_cases none_declared : table.primaryKeys.isEmpty = true
  · rw [uniqueAddress, if_pos none_declared]
  · rw [uniqueAddress, if_neg none_declared, List.append_subset]
    exact and_iff_left fun column unique => declared_of_sound sound column (.inr unique)

theorem identity_declared_iff (sound : table.check = .ok ()) :
    table.identity ⊆ table.columnNames ↔ table.key = [] ∨ table.shardKeys ⊆ table.columnNames := by
  by_cases keyless : table.key = []
  · rw [table.identity_without_key keyless]
    exact iff_of_true (List.filter_subset_self _) (.inl keyless)
  · rw [or_iff_right keyless]
    constructor
    · intro declared column shard
      exact declared ((table.mem_identity keyless column).mpr (.inr shard))
    · intro shards column member
      rcases (table.mem_identity keyless column).mp member with inside | shard
      · exact key_declared sound ((mem_visible table.key column).mp inside).1
      · exact shards shard

end

theorem sound_tables_ask_for_declared_columns_iff (sound : table.check = .ok ()) :
    (table.address ⊆ table.columnNames ↔ table.key = [] ∨ table.DeclaresShardKeys) ∧
      (table.uniqueAddress ⊆ table.columnNames ↔ table.key = [] ∨ table.DeclaresShardKeys) ∧
      (table.identity ⊆ table.columnNames ↔ table.key = [] ∨ table.shardKeys ⊆ table.columnNames) ∧
      ∀ (builder : Builder) (change : RowChange) (statements : List Statement),
        builder.build change table = .ok statements → ∀ statement ∈ statements,
          ∃ tokens reading, Token.lex statement.sql.toList = some tokens ∧ Reading.statement tokens = some reading ∧
            (reading.sql.conditionColumns = [] ∨ reading.sql.conditionColumns = table.identity) := by
  have addressed := address_declared_iff sound
  refine ⟨addressed, (unique_address_declared_iff sound).trans addressed, identity_declared_iff sound, ?_⟩
  intro builder change statements built statement member
  obtain ⟨sql, filled, written, asks⟩ := builder.asks_for_identity change table statements built statement member
  obtain ⟨lexed, read⟩ := sql.read_text filled
  rw [written]
  exact ⟨sql.tokens, ⟨sql, sql.slots⟩, lexed, read, asks⟩

def hiddenlySharded : Table :=
  ((ofNames "shop" "orders" ["id", "note"]).withPrimaryKeys ["id"]).withShardKeys (some " ")
    (some "__#ALIBABA_RDS_ROW_ID#__")

theorem hidden_shard_key_is_not_asked_for :
    hiddenlySharded.check = .ok () ∧ ¬ hiddenlySharded.address ⊆ hiddenlySharded.columnNames ∧
      hiddenlySharded.identity ⊆ hiddenlySharded.columnNames := by
  have sound : hiddenlySharded.check = .ok () := rfl
  obtain ⟨-, -, identity, -⟩ := sound_tables_ask_for_declared_columns_iff hiddenlySharded sound
  exact ⟨sound, by decide, identity.mpr (.inr (by decide))⟩

def shardedOrders : Table :=
  ((ofNames "shop" "orders" ["id", "note"]).withPrimaryKeys ["id"]).withShardKeys none (some "tenant")

def oneOrder : RowChange := ⟨.delete, shardedOrders.columns, [.ofPairs [("id", .int 7), ("note", .string "x")]]⟩

theorem sharded_orders_are_asked_for_a_missing_column :
    shardedOrders.check = .ok () ∧
      (∀ columns ∈ [shardedOrders.address, shardedOrders.uniqueAddress, shardedOrders.identity],
        ¬ columns ⊆ shardedOrders.columnNames) ∧
      oneOrder.deletes shardedOrders =
        .ok [⟨"DELETE FROM `shop`.`orders` WHERE `id`=? AND `tenant` IS NULL", [.int 7], "orders"⟩] := by
  exact ⟨rfl, by decide, rfl⟩

end Table

end ChangeApply
