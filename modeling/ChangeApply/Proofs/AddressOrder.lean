import ChangeApply.Proofs.Addressing
import Mathlib.Data.List.DropRight
import Mathlib.Data.List.Nodup

set_option autoImplicit false

namespace ChangeApply

namespace Blank

theorem only_blanks_iff (text : String) : onlyBlanks text = true ↔ trim text.toList = [] := by
  have all_blank (letters : List Char) : skip letters = [] ↔ ∀ c ∈ letters, isBlank c = true := List.dropWhile_eq_nil_iff
  rw [onlyBlanks, List.all_eq_true, trim, List.reverse_eq_nil_iff, all_blank, ← all_blank]
  constructor
  · intro blank c member
    rw [blank] at member
    cases member
  · intro blank
    have again : skip (skip text.toList) = skip text.toList := List.dropWhile_idempotent isBlank text.toList
    rw [← again]
    apply (all_blank _).mpr
    intro c member
    exact blank c (List.mem_reverse.mpr member)

end Blank

namespace Table

def shardKeysInTurn (table : Table) : List String := table.databaseShardKey.toList ++ table.tableShardKey.toList

def addedShardKey (columns : List String) (shardKey : Option String) : List String :=
  shardKey.toList.filter fun name => !Blank.onlyBlanks name && !columns.contains name

theorem add_shard_key_eq (columns : List String) (shardKey : Option String) :
    addShardKey columns shardKey = columns ++ addedShardKey columns shardKey := by
  cases shardKey with
  | none => simp [addShardKey, addedShardKey]
  | some name =>
    by_cases passed : (Blank.onlyBlanks name || columns.contains name) = true
    · have left_out : addedShardKey columns (some name) = [] := by
        apply List.filter_cons_of_neg
        rw [← Bool.not_or, passed]
        exact Bool.false_ne_true
      rw [addShardKey, if_pos passed, left_out, List.append_nil]
    · have taken : addedShardKey columns (some name) = [name] := by
        apply List.filter_cons_of_pos
        rw [← Bool.not_or, Bool.not_eq_true']
        exact eq_false_of_ne_true passed
      rw [addShardKey, if_neg passed, taken]

theorem added_shard_key_sublist (columns : List String) (shardKey : Option String) :
    (addedShardKey columns shardKey).Sublist shardKey.toList :=
  List.filter_sublist

theorem nodup_add_shard_key (columns : List String) (shardKey : Option String) (distinct : columns.Nodup) :
    (addShardKey columns shardKey).Nodup := by
  rw [add_shard_key_eq, List.nodup_append']
  refine ⟨distinct, ?_, ?_⟩
  · apply (added_shard_key_sublist columns shardKey).nodup
    cases shardKey <;> simp
  · intro column member added
    have fresh := (List.mem_filter.mp added).2
    simp [member] at fresh

variable (table : Table)

theorem key_of_primary (some_key : table.primaryKeys ≠ []) : table.key = table.primaryKeys := by
  rw [key, if_neg (by simpa using some_key)]

theorem key_without_primary (none_declared : table.primaryKeys = []) : table.key = table.uniqueKeys := by
  rw [key, none_declared, List.isEmpty_nil, if_pos rfl]

theorem address_without_key (keyless : table.key = []) : table.address = table.columnNames := by
  rw [address, keyless, List.isEmpty_nil, if_pos rfl]

theorem address_of_key (keyed : table.key ≠ []) :
    table.address = addShardKey (addShardKey table.key table.databaseShardKey) table.tableShardKey := by
  rw [address, if_neg (by simpa using keyed)]

theorem key_ne_nil_iff : table.key ≠ [] ↔ table.primaryKeys ≠ [] ∨ table.uniqueKeys ≠ [] := by
  by_cases primary : table.primaryKeys = []
  · rw [table.key_without_primary primary, or_iff_right (fun some_key => some_key primary)]
  · rw [table.key_of_primary primary]
    exact iff_of_true primary (.inl primary)

theorem mem_address (keyed : table.key ≠ []) (column : String) :
    column ∈ table.address ↔
      column ∈ table.key ∨ column ∈ table.shardKeysInTurn ∧ Blank.trim column.toList ≠ [] := by
  have unblank : Blank.onlyBlanks column = false ↔ Blank.trim column.toList ≠ [] := by
    rw [← Bool.not_eq_true, Blank.only_blanks_iff]
  rw [table.address_of_key keyed, mem_add_shard_key, mem_add_shard_key, unblank, shardKeysInTurn, List.mem_append,
    Option.mem_toList, Option.mem_toList, or_and_right, or_assoc]

theorem nodup_key (primary : table.primaryKeys.Nodup) (unique : table.uniqueKeys.Nodup) : table.key.Nodup := by
  by_cases none_declared : table.primaryKeys = []
  · rwa [table.key_without_primary none_declared]
  · rwa [table.key_of_primary none_declared]

theorem nodup_address (distinct : table.key.Nodup) (columns : table.columnNames.Nodup) : table.address.Nodup := by
  by_cases keyless : table.key = []
  · rwa [table.address_without_key keyless]
  · rw [table.address_of_key keyless]
    apply nodup_add_shard_key
    exact nodup_add_shard_key table.key table.databaseShardKey distinct

def addedToKey : List String :=
  addedShardKey table.key table.databaseShardKey ++
    addedShardKey (addShardKey table.key table.databaseShardKey) table.tableShardKey

theorem address_eq (keyed : table.key ≠ []) : table.address = table.key ++ table.addedToKey := by
  have database := add_shard_key_eq table.key table.databaseShardKey
  have whole := add_shard_key_eq (addShardKey table.key table.databaseShardKey) table.tableShardKey
  rw [table.address_of_key keyed, whole, addedToKey, ← List.append_assoc, ← database]

theorem added_to_key_sublist : table.addedToKey.Sublist table.shardKeysInTurn := by
  apply List.Sublist.append
  · exact added_shard_key_sublist table.key table.databaseShardKey
  · exact added_shard_key_sublist (addShardKey table.key table.databaseShardKey) table.tableShardKey

theorem mem_added_to_key (keyed : table.key ≠ []) (distinct : table.address.Nodup) (column : String) :
    column ∈ table.addedToKey ↔
      column ∈ table.shardKeysInTurn ∧ Blank.trim column.toList ≠ [] ∧ column ∉ table.key := by
  have listed := table.mem_address keyed column
  rw [table.address_eq keyed, List.mem_append] at listed
  rw [table.address_eq keyed, List.nodup_append'] at distinct
  constructor
  · intro member
    have outside : column ∉ table.key := fun inside => distinct.2.2 inside member
    obtain ⟨shard, unblank⟩ := (listed.mp (.inr member)).resolve_left outside
    exact ⟨shard, unblank, outside⟩
  · rintro ⟨shard, unblank, outside⟩
    exact (listed.mpr (.inr ⟨shard, unblank⟩)).resolve_left outside

theorem key_prefix (keyed : table.key ≠ []) : table.key <+: table.address := by
  rw [table.address_eq keyed]
  exact List.prefix_append table.key table.addedToKey

theorem identity_eq :
    table.identity = table.address.filter fun column => Ascii.fold column ≠ Ascii.fold Identifier.hiddenName := by
  rw [identity]
  apply List.filter_congr
  intro column _
  rw [Identifier.isHidden, Bool.eq_iff_iff, decide_eq_true_iff, Bool.not_eq_true', ← Bool.not_eq_true, Ascii.same_iff]

def FollowedByShardKeys (declared : List String) : Prop :=
  ∃ added, table.address = declared ++ added ∧ added.Sublist table.shardKeysInTurn ∧
    ∀ column, column ∈ added ↔
      column ∈ table.shardKeysInTurn ∧ Blank.trim column.toList ≠ [] ∧ column ∉ declared

theorem followed_by_shard_keys (keyed : table.key ≠ []) (distinct : table.address.Nodup) :
    table.FollowedByShardKeys table.key :=
  ⟨table.addedToKey, table.address_eq keyed, table.added_to_key_sublist, table.mem_added_to_key keyed distinct⟩

structure AddressedInOrder : Prop where
  distinct : table.address.Nodup
  distinct_identity : table.identity.Nodup
  primary_first : table.primaryKeys ≠ [] → table.primaryKeys <+: table.address
  unique_first : table.primaryKeys = [] → table.uniqueKeys ≠ [] → table.uniqueKeys <+: table.address
  keyless : table.primaryKeys = [] → table.uniqueKeys = [] → table.address = table.columnNames ∧
    ∀ database ofTable, (table.withShardKeys database ofTable).address = table.address
  shard_keys_once : table.primaryKeys ≠ [] ∨ table.uniqueKeys ≠ [] →
    ∀ shardKey ∈ table.shardKeysInTurn, Blank.trim shardKey.toList ≠ [] → table.address.count shardKey = 1
  shard_keys_after_primary : table.primaryKeys ≠ [] → table.FollowedByShardKeys table.primaryKeys
  shard_keys_after_unique : table.primaryKeys = [] → table.uniqueKeys ≠ [] →
    table.FollowedByShardKeys table.uniqueKeys
  identity : table.identity =
    table.address.filter fun column => Ascii.fold column ≠ Ascii.fold Identifier.hiddenName
  unique_address_without_primary : table.primaryKeys = [] → table.uniqueAddress = table.address
  unique_address_of_primary : table.primaryKeys ≠ [] → table.uniqueAddress = table.address ++ table.uniqueKeys

theorem tables_are_addressed_in_order (primary : table.primaryKeys.Nodup) (unique : table.uniqueKeys.Nodup)
    (columns : table.columnNames.Nodup) : table.AddressedInOrder := by
  have distinct := table.nodup_address (table.nodup_key primary unique) columns
  constructor
  case distinct => exact distinct
  case distinct_identity =>
    rw [table.identity_eq]
    exact distinct.filter _
  case primary_first =>
    intro some_key
    rw [← table.key_of_primary some_key]
    exact table.key_prefix (table.key_ne_nil_iff.mpr (.inl some_key))
  case unique_first =>
    intro none_declared some_key
    rw [← table.key_without_primary none_declared]
    exact table.key_prefix (table.key_ne_nil_iff.mpr (.inr some_key))
  case keyless =>
    intro none_declared none_unique
    have keyless : table.key = [] := (table.key_without_primary none_declared).trans none_unique
    have whole := table.address_without_key keyless
    refine ⟨whole, fun database ofTable => ?_⟩
    rw [whole]
    exact (table.withShardKeys database ofTable).address_without_key keyless
  case shard_keys_once =>
    intro declared shardKey turn unblank
    apply List.count_eq_one_of_mem distinct
    exact (table.mem_address (table.key_ne_nil_iff.mpr declared) shardKey).mpr (.inr ⟨turn, unblank⟩)
  case shard_keys_after_primary =>
    intro some_key
    rw [← table.key_of_primary some_key]
    exact table.followed_by_shard_keys (table.key_ne_nil_iff.mpr (.inl some_key)) distinct
  case shard_keys_after_unique =>
    intro none_declared some_key
    rw [← table.key_without_primary none_declared]
    exact table.followed_by_shard_keys (table.key_ne_nil_iff.mpr (.inr some_key)) distinct
  case identity => exact table.identity_eq
  case unique_address_without_primary =>
    intro none_declared
    rw [uniqueAddress, none_declared, List.isEmpty_nil, if_pos rfl]
  case unique_address_of_primary =>
    intro some_key
    rw [uniqueAddress, if_neg (by simpa using some_key)]

def regionalOrders : Table :=
  ((ofNames "shop" "orders" ["number", "__#Alibaba_RDS_Row_Id#__", "region"]).withUniqueKeys
    ["__#Alibaba_RDS_Row_Id#__", "number"]).withShardKeys (some "region") (some "region")

theorem regional_orders_are_addressed_in_order :
    regionalOrders.primaryKeys.Nodup ∧ regionalOrders.uniqueKeys.Nodup ∧ regionalOrders.columnNames.Nodup ∧
      regionalOrders.AddressedInOrder ∧
      regionalOrders.address = ["__#Alibaba_RDS_Row_Id#__", "number", "region"] ∧
      regionalOrders.identity = ["number", "region"] := by
  have primary : regionalOrders.primaryKeys.Nodup := List.nodup_nil
  have unique : regionalOrders.uniqueKeys.Nodup := by decide
  have columns : regionalOrders.columnNames.Nodup := by decide
  exact ⟨primary, unique, columns, tables_are_addressed_in_order regionalOrders primary unique columns, by decide, by decide⟩

end Table

end ChangeApply
