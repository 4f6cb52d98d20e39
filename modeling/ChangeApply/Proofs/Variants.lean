import ChangeApply.Wire.Kind

set_option autoImplicit false

namespace ChangeApply

namespace Json

theorem text_iff (json : Json) (text : String) : json.text? = some text ↔ json = ofText text := by
  cases json <;> simp [text?, ofText]

theorem whole_iff (low high value : Int) (json : Json) :
    json.whole? low high = some value ↔ json = ofInt value ∧ low ≤ value ∧ value ≤ high := by
  constructor
  · intro read
    unfold whole? at read
    split at read
    next =>
      split at read
      next within =>
        cases read
        exact ⟨rfl, within⟩
      next => cases read
    next => cases read
  · rintro ⟨rfl, within⟩
    exact if_pos within

theorem natural_iff (high value : Nat) (json : Json) :
    json.natural? high = some value ↔ json = ofNat value ∧ value ≤ high := by
  rw [natural?, Option.map_eq_some_iff]
  constructor
  · rintro ⟨whole, read, rfl⟩
    obtain ⟨rfl, above, below⟩ := (whole_iff _ _ _ _).mp read
    have back : (whole.toNat : Int) = whole := Int.toNat_of_nonneg above
    exact ⟨by rw [ofNat, ofInt, back], by omega⟩
  · rintro ⟨rfl, below⟩
    exact ⟨value, (whole_iff _ _ _ _).mpr ⟨rfl, by omega, by omega⟩, Int.toNat_natCast value⟩

end Json

namespace Wire

inductive Named (name : String) : Json → Prop
  | text : Named name (Json.ofText name)
  | empty : Named name (tagged name .null)

theorem variant_iff (name : String) (content json : Json) :
    variant? json = some (name, some content) ↔ json = tagged name content := by
  constructor
  · intro found
    unfold variant? at found
    split at found
    next => cases found
    next =>
      cases found
      rfl
    next => cases found
  · rintro rfl
    rfl

theorem named_iff (name : String) (json : Json) :
    Named name json ↔ ∃ content, variant? json = some (name, content) ∧ bare content = true := by
  constructor
  · rintro (_ | _)
    · exact ⟨none, rfl, rfl⟩
    · exact ⟨some .null, rfl, rfl⟩
  · rintro ⟨content, found, nothing⟩
    unfold variant? at found
    split at found
    next =>
      cases found
      exact .text
    next content =>
      cases found
      cases content with
      | null => exact .empty
      | _ => cases nothing
    next => cases found

theorem named_of_one_of {α : Type} (all : List α) (name : α → String) (json : Json) (variant : α)
    (found : oneOf? all name json = some variant) : variant ∈ all ∧ Named (name variant) json := by
  unfold oneOf? at found
  split at found
  next written content read =>
    split at found
    next nothing =>
      have same : name variant = written := by simpa using List.find?_some found
      rw [← same] at read
      exact ⟨List.mem_of_find?_eq_some found, (named_iff _ _).mpr ⟨content, read, nothing⟩⟩
    next => cases found
  next => cases found

theorem one_of_iff {α : Type} (all : List α) (name : α → String) (json : Json) (variant : α)
    (named : ∀ other ∈ all, name other = name variant → other = variant) :
    oneOf? all name json = some variant ↔ variant ∈ all ∧ Named (name variant) json := by
  refine ⟨named_of_one_of all name json variant, ?_⟩
  rintro ⟨listed, written⟩
  obtain ⟨content, read, nothing⟩ := (named_iff _ _).mp written
  simp only [oneOf?, read, nothing, if_true]
  cases found : all.find? fun other => name other = name variant with
  | none => simpa using List.find?_eq_none.mp found variant listed
  | some other =>
    have same : name other = name variant := by simpa using List.find?_some found
    rw [named other (List.mem_of_find?_eq_some found) same]

end Wire

theorem Hint.of_json_iff (json : Json) (hint : Hint) :
    ofJson? json = some hint ↔ Wire.Named hint.name json := by
  rw [ofJson?, Wire.one_of_iff all name json hint (by cases hint <;> decide), and_iff_right]
  cases hint <;> decide

theorem InsertVerb.of_json_iff (json : Json) (verb : InsertVerb) :
    ofJson? json = some verb ↔ Wire.Named verb.name json := by
  rw [ofJson?, Wire.one_of_iff all name json verb (by cases verb <;> decide), and_iff_right]
  cases verb <;> decide

namespace Policy

inductive Written : Policy → Json → Prop
  | bare (policy : Policy) (json : Json) (listed : policy ∈ bare) (named : Wire.Named policy.name json) :
    Written policy json
  | merging (verb : InsertVerb) (json : Json) (named : Wire.Named verb.name json) :
    Written (.merging verb) (Wire.tagged "Merge" json)

theorem of_json_iff (json : Json) (policy : Policy) : ofJson? json = some policy ↔ policy.Written json := by
  constructor
  · intro read
    unfold ofJson? at read
    split at read
    next content found =>
      obtain ⟨verb, named, rfl⟩ := Option.map_eq_some_iff.mp read
      obtain ⟨inner, rfl, named⟩ := Option.bind_eq_some_iff.mp named
      rw [(Wire.variant_iff _ _ _).mp found]
      exact .merging verb inner ((InsertVerb.of_json_iff inner verb).mp named)
    next =>
      obtain ⟨listed, named⟩ := Wire.named_of_one_of _ _ _ _ read
      exact .bare policy json listed named
  · rintro (⟨_, _, listed, named⟩ | ⟨verb, json, named⟩)
    · have plain : policy = .rowByRow ∨ policy = .replacing ∨ policy = .mergingReplace := by
        simpa [Policy.bare] using listed
      rcases plain with rfl | rfl | rfl <;> cases named <;> rfl
    · exact congrArg (Option.map Policy.merging) ((InsertVerb.of_json_iff json verb).mpr named)

end Policy

end ChangeApply
