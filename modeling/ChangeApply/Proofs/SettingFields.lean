import ChangeApply.Proofs.Variants
import ChangeApply.Settings
import Mathlib.Data.List.Nodup

set_option autoImplicit false

namespace ChangeApply

inductive Setting where
  | url (text : String)
  | poolSize (count : UInt32)
  | acquireMillis (millis : UInt64)
  | policy (chosen : Policy)
  | hint (chosen : Hint)
  | jobListing (query : String)
deriving DecidableEq

namespace Setting

def name : Setting → String
  | .url _ => "database_url"
  | .poolSize _ => "max_connections"
  | .acquireMillis _ => "acquire_timeout_ms"
  | .policy _ => "apply_policy"
  | .hint _ => "ddl_hint"
  | .jobListing _ => "ddl_status_query"

def Written : Setting → Json → Prop
  | .url text, json => json = Json.ofText text
  | .poolSize count, json => json = Json.ofNat count.toNat
  | .acquireMillis millis, json => json = Json.ofNat millis.toNat
  | .policy chosen, json => chosen.Written json
  | .hint chosen, json => Wire.Named chosen.name json
  | .jobListing query, json => json = Json.ofText query

def Reads : Setting → Json → Prop
  | .url text, json => json.text? = some text
  | .poolSize count, json => json.natural? 4294967295 = some count.toNat
  | .acquireMillis millis, json => json.natural? 18446744073709551615 = some millis.toNat
  | .policy chosen, json => Policy.ofJson? json = some chosen
  | .hint chosen, json => Hint.ofJson? json = some chosen
  | .jobListing query, json => json.text? = some query

theorem reads_iff (setting : Setting) (json : Json) : setting.Reads json ↔ setting.Written json := by
  cases setting with
  | url text => exact Json.text_iff json text
  | poolSize count =>
    exact (Json.natural_iff _ _ json).trans (and_iff_left (Nat.le_of_lt_succ count.toNat_lt))
  | acquireMillis millis =>
    exact (Json.natural_iff _ _ json).trans (and_iff_left (Nat.le_of_lt_succ millis.toNat_lt))
  | policy chosen => exact Policy.of_json_iff json chosen
  | hint chosen => exact Hint.of_json_iff json chosen
  | jobListing query => exact Json.text_iff json query

def Unfit (name : String) (json : Json) : Prop :=
  json = .null ∨ ∀ setting : Setting, setting.name = name → ¬ setting.Written json

theorem null_not_written (setting : Setting) : ¬ setting.Written .null := by
  cases setting with
  | policy chosen =>
    rintro (⟨_, _, _, named⟩ | _)
    cases named
  | hint chosen => exact nofun
  | _ => exact Json.noConfusion

theorem not_unfit (setting : Setting) (json : Json) (written : setting.Written json) :
    ¬ Unfit setting.name json := by
  rintro (rfl | none)
  · exact setting.null_not_written written
  · exact none setting rfl written

theorem name_known (setting : Setting) : setting.name ∈ Settings.fieldNames := by
  cases setting <;> simp [name, Settings.fieldNames]

end Setting

namespace Settings

def set (settings : Settings) : Setting → Settings
  | .url text => { settings with url := text }
  | .poolSize count => { settings with poolSize := count.toNat }
  | .acquireMillis millis => { settings with acquireMillis := millis.toNat }
  | .policy chosen => { settings with policy := chosen }
  | .hint chosen => { settings with hint := chosen }
  | .jobListing query => { settings with jobListing := query }

def Holds (settings : Settings) : Setting → Prop
  | .url text => settings.url = text
  | .poolSize count => settings.poolSize = count.toNat
  | .acquireMillis millis => settings.acquireMillis = millis.toNat
  | .policy chosen => settings.policy = chosen
  | .hint chosen => settings.hint = chosen
  | .jobListing query => settings.jobListing = query

theorem holds_set (settings : Settings) (setting other : Setting) :
    (settings.set setting).Holds other ↔
      if other.name = setting.name then other = setting else settings.Holds other := by
  cases setting <;> cases other <;>
    simp [set, Holds, Setting.name, UInt32.toNat_inj, UInt64.toNat_inj, eq_comm]

def setAll (base : Settings) (given : List Setting) : Settings := given.foldl set base

theorem set_all_cons (base : Settings) (first : Setting) (rest : List Setting) :
    base.setAll (first :: rest) = (base.set first).setAll rest := rfl

theorem holds_set_all (base : Settings) (given : List Setting) (distinct : (given.map Setting.name).Nodup)
    (setting : Setting) :
    (base.setAll given).Holds setting ↔
      setting ∈ given ∨ setting.name ∉ given.map Setting.name ∧ base.Holds setting := by
  induction given generalizing base with
  | nil => simp [setAll]
  | cons first rest ih =>
    obtain ⟨absent, later⟩ := List.nodup_cons.mp distinct
    rw [set_all_cons, ih (base.set first) later, holds_set]
    by_cases same : setting.name = first.name
    · have others : setting ∉ rest := fun member => absent (same ▸ List.mem_map_of_mem member)
      simp [same, others, absent]
    · have different : setting ≠ first := fun equal => same (equal ▸ rfl)
      simp [same, different]

theorem set_comm (settings : Settings) (first second : Setting) (different : first.name ≠ second.name) :
    (settings.set first).set second = (settings.set second).set first := by
  cases first <;> cases second <;> first | rfl | exact absurd rfl different

theorem set_all_perm (base : Settings) (given ordered : List Setting) (same : ordered.Perm given)
    (distinct : (given.map Setting.name).Nodup) : base.setAll ordered = base.setAll given := by
  have once : (ordered.map Setting.name).Nodup := (same.map Setting.name).nodup_iff.mpr distinct
  refine same.foldl_eq' (fun first listed second other settings => ?_) base
  by_cases named : first.name = second.name
  · rw [List.inj_on_of_nodup_map once listed other named]
  · exact set_comm settings first second named

end Settings

end ChangeApply
