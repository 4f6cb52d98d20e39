import ChangeApply.Change.PerRow

set_option autoImplicit false

/- When the identity of a table addresses its rows. Hidden columns are left out after
   the shard keys were added to the key: a key that is hidden as a whole leaves the
   shard keys behind. -/
namespace ChangeApply.Table

def visible (columns : List String) : List String := columns.filter fun column => !Identifier.isHidden column

def shardKeys (table : Table) : List String :=
  visible ((table.databaseShardKey.toList ++ table.tableShardKey.toList).filter fun name => !Blank.onlyBlanks name)

def HoldsKey (table : Table) (columns : List String) : Prop :=
  ∃ key ∈ [table.primaryKeys, table.uniqueKeys], visible key ≠ [] ∧ visible key ⊆ columns

def HoldsRow (table : Table) (columns : List String) : Prop := visible table.columnNames ⊆ columns

def Addresses (table : Table) (columns : List String) : Prop := table.HoldsKey columns ∨ table.HoldsRow columns

theorem mem_visible (columns : List String) (column : String) :
    column ∈ visible columns ↔ column ∈ columns ∧ Identifier.isHidden column = false := by
  simp [visible]

theorem mem_add_shard_key (columns : List String) (shardKey : Option String) (column : String) :
    column ∈ addShardKey columns shardKey ↔
      column ∈ columns ∨ shardKey = some column ∧ Blank.onlyBlanks column = false := by
  cases shardKey with
  | none => simp [addShardKey]
  | some name =>
    rw [Option.some.injEq]
    by_cases passed : (Blank.onlyBlanks name || columns.contains name) = true
    · rw [addShardKey, if_pos passed]
      refine ⟨.inl, ?_⟩
      rintro (member | ⟨rfl, unblank⟩)
      · exact member
      · simpa [unblank] using passed
    · rw [addShardKey, if_neg passed, List.mem_append, List.mem_singleton]
      have unblank := (Bool.or_eq_false_iff.mp (eq_false_of_ne_true passed)).1
      refine or_congr_right ⟨?_, ?_⟩
      · rintro rfl
        exact ⟨rfl, unblank⟩
      · rintro ⟨rfl, -⟩
        rfl

theorem mem_shard_keys (table : Table) (column : String) :
    column ∈ table.shardKeys ↔
      (table.databaseShardKey = some column ∨ table.tableShardKey = some column) ∧
        Blank.onlyBlanks column = false ∧ Identifier.isHidden column = false := by
  simp only [shardKeys, mem_visible, List.mem_filter, List.mem_append, Option.mem_toList, Bool.not_eq_true',
    and_assoc]

theorem identity_without_key (table : Table) (keyless : table.key = []) :
    table.identity = visible table.columnNames := by
  rw [identity, address, keyless, List.isEmpty_nil, if_pos rfl, visible]

theorem mem_identity (table : Table) (keyed : table.key ≠ []) (column : String) :
    column ∈ table.identity ↔ column ∈ visible table.key ∨ column ∈ table.shardKeys := by
  have whole : table.identity =
      visible (addShardKey (addShardKey table.key table.databaseShardKey) table.tableShardKey) := by
    rw [identity, address, if_neg (by simpa using keyed), visible]
  rw [whole, mem_visible, mem_add_shard_key, mem_add_shard_key, mem_visible, mem_shard_keys]
  constructor
  · rintro ⟨(member | ⟨named, unblank⟩) | ⟨named, unblank⟩, shown⟩
    · exact .inl ⟨member, shown⟩
    · exact .inr ⟨.inl named, unblank, shown⟩
    · exact .inr ⟨.inr named, unblank, shown⟩
  · rintro (⟨member, shown⟩ | ⟨named | named, unblank, shown⟩)
    · exact ⟨.inl (.inl member), shown⟩
    · exact ⟨.inl (.inr ⟨named, unblank⟩), shown⟩
    · exact ⟨.inr ⟨named, unblank⟩, shown⟩

theorem key_mem (table : Table) : table.key ∈ [table.primaryKeys, table.uniqueKeys] := by
  cases primary : table.primaryKeys.isEmpty <;> simp [key, primary]

theorem Addresses.mono (table : Table) (columns more : List String) (within : columns ⊆ more)
    (addresses : table.Addresses columns) : table.Addresses more := by
  rcases addresses with ⟨key, declared, shown, held⟩ | row
  · exact .inl ⟨key, declared, shown, List.Subset.trans held within⟩
  · exact .inr (List.Subset.trans row within)

theorem mem_identity_of_hidden_key (table : Table) (keyed : table.key ≠ []) (hidden : visible table.key = [])
    (column : String) : column ∈ table.identity ↔ column ∈ table.shardKeys := by
  rw [mem_identity table keyed, hidden]
  simp only [List.not_mem_nil, false_or]

theorem addresses_of_shown_key (table : Table) (shown : visible table.key ≠ []) : table.Addresses table.identity := by
  have keyed : table.key ≠ [] := by
    intro keyless
    rw [keyless] at shown
    exact shown rfl
  refine .inl ⟨table.key, table.key_mem, shown, fun column member => ?_⟩
  exact (mem_identity table keyed column).mpr (.inl member)

theorem identity_addresses_iff (table : Table) :
    ((table.identity ≠ [] → table.Addresses table.identity) ↔
        table.key = [] ∨ visible table.key ≠ [] ∨ table.shardKeys = [] ∨ table.Addresses table.shardKeys) ∧
      (table.key ≠ [] → visible table.key = [] →
        ∀ column, column ∈ table.identity ↔ column ∈ table.shardKeys) := by
  refine ⟨?_, mem_identity_of_hidden_key table⟩
  by_cases keyed : table.key = []
  · refine iff_of_true (fun _ => .inr ?_) (.inl keyed)
    rw [identity_without_key table keyed]
    exact List.Subset.refl _
  by_cases hidden : visible table.key = []
  · have same := mem_identity_of_hidden_key table keyed hidden
    constructor
    · intro addressed
      by_cases unsharded : table.shardKeys = []
      · exact .inr (.inr (.inl unsharded))
      · have named : table.identity ≠ [] := by
          obtain ⟨column, member⟩ := List.exists_mem_of_ne_nil _ unsharded
          exact List.ne_nil_of_mem ((same column).mpr member)
        refine .inr (.inr (.inr ?_))
        exact (addressed named).mono table _ _ fun column member => (same column).mp member
    · rintro (keyless | shown | unsharded | addressed) named
      · exact absurd keyless keyed
      · exact absurd hidden shown
      · obtain ⟨column, member⟩ := List.exists_mem_of_ne_nil _ named
        rw [same, unsharded] at member
        cases member
      · exact addressed.mono table _ _ fun column member => (same column).mpr member
  · exact iff_of_true (fun _ => addresses_of_shown_key table hidden) (.inr (.inl hidden))

def tenantEvents : Table :=
  ((ofNames "db" "events" ["__#ALIBABA_RDS_ROW_ID#__", "tenant", "payload"]).withPrimaryKeys
    ["__#ALIBABA_RDS_ROW_ID#__"]).withShardKeys none (some "tenant")

def oneEvent : RowChange :=
  ⟨.delete, tenantEvents.columns, [.ofPairs [("tenant", .int 7), ("payload", .string "x")]]⟩

theorem tenant_events_lose_their_key :
    tenantEvents.check = .ok () ∧ tenantEvents.identity = ["tenant"] ∧
      ¬ tenantEvents.Addresses tenantEvents.identity ∧
      oneEvent.deletes tenantEvents = .ok [⟨"DELETE FROM `db`.`events` WHERE `tenant`=?", [.int 7], "events"⟩] := by
  have named : tenantEvents.identity = ["tenant"] := by decide
  refine ⟨rfl, named, ?_, rfl⟩
  rw [named]
  rintro (⟨key, declared, shown, -⟩ | row)
  · have hidden : ∀ key ∈ [tenantEvents.primaryKeys, tenantEvents.uniqueKeys], visible key = [] := by decide
    exact shown (hidden key declared)
  · have payload : "payload" ∈ visible tenantEvents.columnNames := by decide
    exact absurd (row payload) (by decide)

end ChangeApply.Table
