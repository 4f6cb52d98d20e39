import ChangeApply.Proofs.Documents
import ChangeApply.Proofs.Records
import ChangeApply.Proofs.SettingFields
import Mathlib.Data.List.Forall2

set_option autoImplicit false

namespace ChangeApply

namespace Settings

theorem overlay_cons (base : Settings) (setting : Setting) (json : Json) (fields : Wire.Fields)
    (written : setting.Written json) (absent : fields.lookup setting.name = none) :
    overlay? base ((setting.name, json) :: fields) = overlay? (base.set setting) fields := by
  have read := (setting.reads_iff json).mpr written
  cases setting <;> simp only [Setting.name, Setting.Reads] at absent read ⊢ <;>
    simp [overlay?, set, read, Wire.defaulted_absent, absent]

def Gives (setting : Setting) (field : String × Json) : Prop :=
  field.1 = setting.name ∧ setting.Written field.2

theorem names_given (given : List Setting) (fields : Wire.Fields) (stated : List.Forall₂ Gives given fields) :
    fields.map Prod.fst = given.map Setting.name := by
  induction stated with
  | nil => rfl
  | cons first _ ih => rw [List.map_cons, List.map_cons, first.1, ih]

theorem overlay_given (given : List Setting) (fields : Wire.Fields) (base : Settings)
    (stated : List.Forall₂ Gives given fields) (distinct : (given.map Setting.name).Nodup) :
    overlay? base fields = some (base.setAll given) := by
  induction stated generalizing base with
  | nil => rfl
  | @cons setting field given fields first later ih =>
    obtain ⟨name, json⟩ := field
    obtain ⟨rfl, written⟩ := first
    obtain ⟨absent, others⟩ := List.nodup_cons.mp distinct
    rw [← names_given given fields later] at absent
    have missing : fields.lookup setting.name = none := by
      refine List.lookup_eq_none_iff.mpr fun other member => bne_iff_ne.mpr fun same => absent ?_
      exact same ▸ List.mem_map_of_mem member
    rw [overlay_cons base setting json fields written missing, ih (base.set setting) others, set_all_cons]

theorem fit_of_overlay (base settings : Settings) (fields : Wire.Fields) (name : String) (json : Json)
    (read : overlay? base fields = some settings) (known : name ∈ fieldNames)
    (given : fields.lookup name = some json) : ¬ Setting.Unfit name json := by
  have fit (setting : Setting) (named : setting.name = name) (reads : setting.Reads json) :
      ¬ Setting.Unfit name json := named ▸ setting.not_unfit json ((setting.reads_iff json).mp reads)
  simp only [overlay?, Option.bind_eq_bind, Option.bind_eq_some_iff] at read
  obtain ⟨url, readUrl, count, readCount, millis, readMillis, policy, readPolicy, hint, readHint, query,
    readQuery, -⟩ := read
  simp only [fieldNames, List.mem_cons, List.not_mem_nil, or_false] at known
  rcases known with rfl | rfl | rfl | rfl | rfl | rfl
  · rw [Wire.defaulted_present _ _ _ _ _ given] at readUrl
    exact fit (.url url) rfl readUrl
  · rw [Wire.defaulted_present _ _ _ _ _ given] at readCount
    have below := ((Json.natural_iff _ _ _).mp readCount).2
    refine fit (.poolSize (.ofNat count)) rfl ?_
    rw [Setting.Reads, UInt32.toNat_ofNat_of_lt' (Nat.lt_succ_of_le below)]
    exact readCount
  · rw [Wire.defaulted_present _ _ _ _ _ given] at readMillis
    have below := ((Json.natural_iff _ _ _).mp readMillis).2
    refine fit (.acquireMillis (.ofNat millis)) rfl ?_
    rw [Setting.Reads, UInt64.toNat_ofNat_of_lt' (Nat.lt_succ_of_le below)]
    exact readMillis
  · rw [Wire.defaulted_present _ _ _ _ _ given] at readPolicy
    exact fit (.policy policy) rfl readPolicy
  · rw [Wire.defaulted_present _ _ _ _ _ given] at readHint
    exact fit (.hint hint) rfl readHint
  · rw [Wire.defaulted_present _ _ _ _ _ given] at readQuery
    exact fit (.jobListing query) rfl readQuery

inductive Interleaved : List Setting → List (Json.Text × Json) → Prop
  | nil : Interleaved [] []
  | setting (setting : Setting) (json : Json) (given : List Setting) (members : List (Json.Text × Json))
      (written : setting.Written json) (later : Interleaved given members) :
    Interleaved (setting :: given) ((some setting.name, json) :: members)
  | unknown (name : String) (json : Json) (given : List Setting) (members : List (Json.Text × Json))
      (other : name ∉ fieldNames) (later : Interleaved given members) :
    Interleaved given ((some name, json) :: members)

theorem members_given (given : List Setting) (members : List (Json.Text × Json))
    (interleaved : Interleaved given members) (skippable : ∀ member ∈ members, member.2.isSkippable = true) :
    ∃ fields, Wire.knownMembers fieldNames members = some fields ∧ List.Forall₂ Gives given fields := by
  induction interleaved with
  | nil => exact ⟨[], rfl, .nil⟩
  | setting setting json given members written later ih =>
    obtain ⟨fields, known, stated⟩ := ih (List.forall_mem_cons.mp skippable).2
    refine ⟨(setting.name, json) :: fields, ?_, .cons ⟨rfl, written⟩ stated⟩
    rw [Wire.knownMembers, if_pos (List.contains_iff_mem.mpr (setting.name_known)), known, Option.map_some]
  | unknown name json given members other later ih =>
    obtain ⟨passed, others⟩ := List.forall_mem_cons.mp skippable
    obtain ⟨fields, known, stated⟩ := ih others
    refine ⟨fields, ?_, stated⟩
    rw [Wire.knownMembers, if_neg (mt List.contains_iff_mem.mp other), if_pos passed, known]

theorem of_members (given : List Setting) (members : List (Json.Text × Json))
    (interleaved : Interleaved given members) (skippable : ∀ member ∈ members, member.2.isSkippable = true)
    (distinct : (given.map Setting.name).Nodup) :
    ofJson? (.object members) = some (initial.setAll given) := by
  obtain ⟨fields, known, stated⟩ := members_given given members interleaved skippable
  have once : (fields.map Prod.fst).Nodup := by rwa [names_given given fields stated]
  rw [ofJson?, Wire.fields?, known, Option.bind_some, if_pos once, Option.bind_some,
    overlay_given given fields initial stated distinct]

theorem items_given (given : List Setting) (items : List Json) (names : List String)
    (written : List.Forall₂ Setting.Written given items) (leading : given.map Setting.name <+: names) :
    List.Forall₂ Gives given (names.zip items) := by
  induction written generalizing names with
  | nil =>
    rw [List.zip_nil_right]
    exact .nil
  | @cons setting json given items first _ ih =>
    cases names with
    | nil => simp at leading
    | cons name names =>
      rw [List.map_cons, List.cons_prefix_cons] at leading
      exact .cons ⟨leading.1.symm, first⟩ (ih names leading.2)

theorem of_items (given : List Setting) (items : List Json) (leading : given.map Setting.name <+: fieldNames)
    (written : List.Forall₂ Setting.Written given items) :
    ofJson? (.array items) = some (initial.setAll given) := by
  have distinct : (given.map Setting.name).Nodup := leading.sublist.nodup (by decide)
  have short : items.length ≤ fieldNames.length := by
    have length := leading.length_le
    rwa [List.length_map, written.length_eq] at length
  have stated := items_given given items fieldNames written leading
  rw [ofJson?, Wire.fields?, if_pos short, Option.bind_some,
    overlay_given given _ initial stated distinct]

inductive Spoils (name : String) : Json → Prop
  | twice (members : List (Json.Text × Json)) (repeated : 2 ≤ (members.map Prod.fst).count (some name)) :
    Spoils name (.object members)
  | member (members : List (Json.Text × Json)) (json : Json) (present : (some name, json) ∈ members)
      (unfit : Setting.Unfit name json) :
    Spoils name (.object members)
  | item (items : List Json) (place : Nat) (json : Json) (named : fieldNames[place]? = some name)
      (present : items[place]? = some json) (unfit : Setting.Unfit name json) :
    Spoils name (.array items)

theorem overlay_unfit (base : Settings) (fields : Wire.Fields) (name : String) (json : Json)
    (known : name ∈ fieldNames) (distinct : (fields.map Prod.fst).Nodup) (present : (name, json) ∈ fields)
    (unfit : Setting.Unfit name json) : overlay? base fields = none := by
  have given := Wire.lookup_of_mem fields name json distinct present
  cases read : overlay? base fields with
  | none => rfl
  | some settings => exact absurd unfit (fit_of_overlay base settings fields name json read known given)

theorem refused_of_spoils (name : String) (document : Json) (known : name ∈ fieldNames)
    (spoils : Spoils name document) : ofJson? document = none := by
  rw [ofJson?, Option.bind_eq_none_iff]
  intro fields read
  cases spoils with
  | twice members repeated =>
    obtain ⟨found, listed, once⟩ := Option.bind_eq_some_iff.mp read
    have counted := Wire.known_members_count fieldNames members found name known listed
    have again : ¬ (found.map Prod.fst).Nodup := by
      intro distinct
      have most := List.nodup_iff_count.mp distinct name
      omega
    rw [if_neg again] at once
    cases once
  | member members json present unfit =>
    obtain ⟨found, listed, once⟩ := Option.bind_eq_some_iff.mp read
    have kept := Wire.mem_known_members fieldNames members found name json known listed present
    split at once
    next distinct =>
      cases once
      exact overlay_unfit initial fields name json known distinct kept unfit
    next => cases once
  | item items place json named present unfit =>
    rw [Wire.fields?] at read
    split at read
    next =>
      cases read
      have distinct := (Wire.zip_names fieldNames items).nodup (by decide)
      have placed : (fieldNames.zip items)[place]? = some (name, json) :=
        List.getElem?_zip_eq_some.mpr ⟨named, present⟩
      exact overlay_unfit initial _ name json known distinct (List.mem_of_getElem? placed) unfit
    next => cases read

end Settings

open Settings (Interleaved Spoils)

theorem settings_are_read_in_any_form :
    (∀ given : List Setting, (given.map Setting.name).Nodup →
      ∃ settings : Settings,
        (∀ setting, settings.Holds setting ↔
          setting ∈ given ∨ setting.name ∉ given.map Setting.name ∧ Settings.initial.Holds setting) ∧
        (∀ (ordered : List Setting) (members : List (Json.Text × Json)) (text : String), ordered.Perm given →
          Interleaved ordered members → (Json.object members).Written text.toList →
            Settings.read text = some settings) ∧
        ∀ (items : List Json) (text : String), given.map Setting.name <+: Settings.fieldNames →
          List.Forall₂ Setting.Written given items → (Json.array items).Written text.toList →
            Settings.read text = some settings) ∧
    ∀ name ∈ Settings.fieldNames, ∀ (document : Json) (text : String), Spoils name document →
      document.Written text.toList → Settings.read text = none := by
  refine ⟨fun given distinct => ⟨Settings.initial.setAll given, ?_, ?_, ?_⟩, ?_⟩
  · exact Settings.initial.holds_set_all given distinct
  · intro ordered members text same interleaved written
    have once : (ordered.map Setting.name).Nodup := (same.map Setting.name).nodup_iff.mpr distinct
    have skippable := (Json.have_skippable_iff members).mp (Json.skippable_of_written _ _ written)
    rw [Settings.read, (Json.read_iff text _).mpr written, Option.bind_some,
      Settings.of_members ordered members interleaved skippable once, Settings.initial.set_all_perm given ordered same distinct]
  · intro items text leading typed written
    rw [Settings.read, (Json.read_iff text _).mpr written, Option.bind_some, Settings.of_items given items leading typed]
  · intro name known document text spoils written
    rw [Settings.read, (Json.read_iff text _).mpr written, Option.bind_some,
      Settings.refused_of_spoils name document known spoils]

def remotePool : List Setting := [.url "mysql://a", .poolSize 3]

def scatteredMembers : List (Json.Text × Json) :=
  [(some "note", .array [.object [], .number (.decimal true 1 999), .string none]),
    (some "max_connections", Json.ofNat 3),
    (some "note", .null),
    (some "database_url", Json.ofText "mysql://a")]

def scatteredText : String :=
  "\n\x7b \"note\":[\x7b\x7d,-1e999,\"\\ud800\"], \"max_connections\" :3,\"note\":null ,\t" ++
    "\"\\u0064atabase_url\":\"mysql:\\/\\/a\" \x7d"

def listedText : String := "[\"mysql://a\" , 3]"

def repeatedMembers : List (Json.Text × Json) :=
  [(some "max_connections", Json.ofNat 3), (some "note", .null), (some "max_connections", Json.ofNat 3)]

def repeatedText : String := "\x7b\"max_connections\":3,\"note\":null,\"max_connections\":3\x7d"

theorem scattered_settings_are_read :
    (remotePool.map Setting.name).Nodup ∧ remotePool.map Setting.name <+: Settings.fieldNames ∧
      Interleaved remotePool.reverse scatteredMembers ∧
      (Json.object scatteredMembers).Written scatteredText.toList ∧
      (∃ settings : Settings, settings.Holds (.poolSize 3) ∧ settings.Holds (.hint .plain) ∧
        Settings.read scatteredText = some settings ∧ Settings.read listedText = some settings) ∧
      Spoils "max_connections" (.object repeatedMembers) ∧ Settings.read repeatedText = none := by
  have distinct : (remotePool.map Setting.name).Nodup := by decide
  have leading : remotePool.map Setting.name <+: Settings.fieldNames := by decide
  have interleaved : Interleaved remotePool.reverse scatteredMembers :=
    .unknown _ _ _ _ (by decide) (.setting (.poolSize 3) _ _ _ rfl
      (.unknown _ _ _ _ (by decide) (.setting (.url "mysql://a") _ _ _ rfl .nil)))
  have scattered : (Json.object scatteredMembers).Written scatteredText.toList :=
    (Json.read_iff _ _).mp rfl
  have listed : (Json.array [Json.ofText "mysql://a", Json.ofNat 3]).Written listedText.toList :=
    (Json.read_iff _ _).mp rfl
  have repeated : (Json.object repeatedMembers).Written repeatedText.toList :=
    (Json.read_iff _ _).mp rfl
  have spoils : Spoils "max_connections" (.object repeatedMembers) := .twice _ (by decide)
  obtain ⟨forms, refusals⟩ := settings_are_read_in_any_form
  obtain ⟨settings, held, object, array⟩ := forms remotePool distinct
  refine ⟨distinct, leading, interleaved, scattered, ⟨settings, ?_, ?_, ?_, ?_⟩, spoils, ?_⟩
  · exact (held _).mpr (.inl (by decide))
  · exact (held _).mpr (.inr ⟨by decide, rfl⟩)
  · exact object _ _ _ remotePool.reverse_perm interleaved scattered
  · exact array _ _ leading (.cons rfl (.cons rfl .nil)) listed
  · exact refusals _ (by decide) _ _ spoils repeated

end ChangeApply
