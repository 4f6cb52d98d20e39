import ChangeApply.Proofs.NumberText

set_option autoImplicit false

/- The scanner finds the tokens of a text however they are written, and takes nothing
   else for a token. A number runs on into what is written after it, so it is the one
   token that something must set apart. -/
namespace ChangeApply.Json

theorem body_unit (unit : Unit16) (spelled rest : List Char) (done : List Unit16)
    (written : unit.Written spelled) :
    stringBody false (spelled ++ rest) done = stringBody false rest (unit :: done) := by
  cases written with
  | plain c quote backslash visible =>
    rw [List.singleton_append, stringBody, if_neg visible]
    · exact quote
    · exact fun _ _ _ _ _ same _ => backslash same
    · exact fun _ _ same _ => backslash same
  | short c letter known =>
    rw [List.cons_append, List.singleton_append, stringBody, known]
    intro _ _ _ _ _ same
    cases same
    cases known
  | code a b c d w x y z digits =>
    simp only [List.cons_append, List.nil_append, stringBody, digits]

theorem body_units (units : List Unit16) (body rest : List Char) (done : List Unit16)
    (written : Body units body) :
    stringBody false (body ++ '"' :: rest) done = some (done.reverse ++ units, rest) := by
  induction written generalizing done with
  | nil => simp [stringBody]
  | cons unit units spelled body first _ ih =>
    rw [List.append_assoc, body_unit unit spelled _ done first, ih]
    simp

theorem written_body (text rest : List Char) (done units : List Unit16)
    (found : stringBody false text done = some (units, rest)) :
    ∃ body later, text = body ++ '"' :: rest ∧ units = done.reverse ++ later ∧ Body later body := by
  fun_induction stringBody false text done with
  | case1 =>
    cases found
    exact ⟨[], [], rfl, (List.append_nil _).symm, .nil⟩
  | case2 a b c d _ _ w x y z digits ih =>
    obtain ⟨body, later, rfl, rfl, written⟩ := ih found
    exact ⟨'\\' :: 'u' :: a :: b :: c :: d :: body, _ :: later, rfl, by simp,
      .cons _ _ _ _ (.code a b c d w x y z digits) written⟩
  | case4 c _ _ _ letter known ih =>
    obtain ⟨body, later, rfl, rfl, written⟩ := ih found
    exact ⟨'\\' :: c :: body, _ :: later, rfl, by simp, .cons _ _ _ _ (.short c letter known) written⟩
  | case8 c text _ quote _ backslash visible ih =>
    obtain ⟨body, later, rfl, rfl, written⟩ := ih found
    have other : c ≠ '\\' := by
      rintro rfl
      cases body <;> exact backslash _ _ rfl rfl
    exact ⟨c :: body, _ :: later, rfl, by simp, .cons _ _ _ _ (.plain c quote other visible) written⟩
  | case6 _ _ _ _ _ _ _ loose => cases loose
  | case3 | case5 | case7 | case9 => cases found

theorem pair_up_iff (units : List Unit16) (done letters : List Char) :
    pairUp units done = some letters ↔ ∃ text, letters = done.reverse ++ text ∧ StandsFor units text := by
  fun_induction pairUp units done with
  | case1 done =>
    constructor
    · intro same
      cases same
      exact ⟨[], (List.append_nil _).symm, .nil⟩
    · rintro ⟨text, rfl, stands⟩
      cases stands
      rw [List.append_nil]
  | case2 c units done ih =>
    rw [ih]
    constructor
    · rintro ⟨text, rfl, stands⟩
      exact ⟨c :: text, by simp, .char c units text stands⟩
    · rintro ⟨_, rfl, stands⟩
      cases stands with
      | char _ _ text later => exact ⟨text, by simp, later⟩
  | case3 high low units done ih =>
    rw [ih]
    constructor
    · rintro ⟨text, rfl, stands⟩
      exact ⟨_ :: text, by simp, .pair high low units text stands⟩
    · rintro ⟨_, rfl, stands⟩
      cases stands with
      | pair _ _ _ text later => exact ⟨text, by simp, later⟩
  | case4 units done empty plain paired =>
    refine iff_of_false nofun ?_
    rintro ⟨_, -, stands⟩
    cases stands with
    | nil => exact empty rfl
    | char => exact plain _ _ rfl
    | pair => exact paired _ _ _ rfl

theorem text_of_units (units : List Unit16) (text : Text) :
    (pairUp units []).map String.ofList = text ↔
      ∀ letters, text = some (String.ofList letters) ↔ StandsFor units letters := by
  have stands (letters : List Char) : pairUp units [] = some letters ↔ StandsFor units letters := by
    simp [pair_up_iff]
  constructor
  · rintro rfl letters
    rw [← stands]
    simp [String.ofList_inj]
  · intro meant
    cases paired : pairUp units [] with
    | some letters => exact ((meant letters).mpr ((stands letters).mp paired)).symm
    | none =>
      cases text with
      | none => rfl
      | some text =>
        have letters := (stands text.toList).mpr ((meant text.toList).mp (by rw [String.ofList_toList]))
        rw [paired] at letters
        cases letters

namespace Token

def isNumber : Token → Bool
  | .number _ => true
  | _ => false

theorem first_number (number : Number) (spelled rest : List Char) (written : number.Written spelled)
    (ended : NumberEnds rest) : first? false (spelled ++ rest) = some (.number number, rest) := by
  have scanned := scan_number number spelled rest written ended
  rw [first?, scanned, Option.map_some]
  -- A text that opens another token is no number.
  all_goals
    intro other same
    rw [same] at scanned
    cases scanned

theorem first_string (text : Text) (spelled rest : List Char) (written : text.Written spelled) :
    first? false (spelled ++ rest) = some (.string text, rest) := by
  obtain ⟨units, body, letters, rfl, meant⟩ := written
  have read := body_units units body rest [] letters
  rw [List.reverse_nil, List.nil_append] at read
  rw [List.cons_append, List.cons_append, List.append_assoc, List.singleton_append, first?, read, Option.map_some,
    of_units_strict, (text_of_units units text).mpr meant]

theorem first_written (token : Token) (spelled rest : List Char) (written : token.Written spelled)
    (ended : token.isNumber = true → NumberEnds rest) :
    first? false (spelled ++ rest) = some (token, rest) := by
  cases token with
  | number number => exact first_number number spelled rest written (ended rfl)
  | string text => exact first_string text spelled rest written
  | bool value =>
    cases value <;> cases written <;> rfl
  | ragged units => cases written
  | _ =>
    cases written
    rfl

theorem written_first (text rest : List Char) (token : Token) (found : first? false text = some (token, rest)) :
    ∃ spelled, text = spelled ++ rest ∧ token.Written spelled := by
  unfold first? at found
  split at found
  case h_10 text =>
    obtain ⟨⟨units, left⟩, read, same⟩ := Option.map_eq_some_iff.mp found
    cases same
    obtain ⟨body, _, rfl, rfl, written⟩ := written_body text left [] units read
    refine ⟨'"' :: body ++ ['"'], by simp, units, body, written, rfl, ?_⟩
    exact (text_of_units units _).mp rfl
  case h_11 =>
    obtain ⟨⟨number, left⟩, read, same⟩ := Option.map_eq_some_iff.mp found
    cases same
    exact written_number text left number read
  all_goals
    cases found
    exact ⟨_, rfl, rfl⟩

def closes : Token → Bool
  | .comma => true
  | .closeArray => true
  | .closeObject => true
  | _ => false

def Apart : List Token → Prop
  | [] => True
  | token :: rest => (token.isNumber = true → ∀ next ∈ rest.head?, next.closes = true) ∧ Apart rest

theorem apart_cons (token : Token) (rest : List Token) (other : token.isNumber = false)
    (apart : Apart rest) : Apart (token :: rest) :=
  ⟨fun number => absurd (other.symm.trans number) (by decide), apart⟩

theorem number_ends_at_space (c : Char) (rest : List Char) (space : isSpace c = true) :
    NumberEnds (c :: rest) := by
  simp only [isSpace, Bool.or_eq_true, decide_eq_true_eq] at space
  rcases space with ((rfl | rfl) | rfl) | rfl <;> simp [NumberEnds, Numeral.Ends]

theorem number_ends_at (tokens : List Token) (text : List Char) (spaced : Spaced tokens text)
    (apart : ∀ next ∈ tokens.head?, next.closes = true) : NumberEnds text := by
  cases spaced with
  | nil _ blank =>
    cases text with
    | nil => exact number_ends_nil
    | cons c rest => exact number_ends_at_space c rest (blank c List.mem_cons_self)
  | cons token rest blanks spelled text blank first later =>
    have closed := apart token rfl
    cases blanks with
    | nil =>
      cases token with
      | comma | closeArray | closeObject =>
        cases first
        simp [NumberEnds, Numeral.Ends]
      | _ => cases closed
    | cons c blanks => exact number_ends_at_space c _ (blank c List.mem_cons_self)

theorem no_token_at_space (c : Char) (rest : List Char) (space : isSpace c = true) :
    first? false (c :: rest) = none := by
  simp only [isSpace, Bool.or_eq_true, decide_eq_true_eq] at space
  rcases space with ((rfl | rfl) | rfl) | rfl <;> rfl

theorem written_starts (token : Token) (spelled : List Char) (written : token.Written spelled) :
    ∃ c rest, spelled = c :: rest ∧ isSpace c = false := by
  have first := first_written token spelled [] written fun _ => number_ends_nil
  rw [List.append_nil] at first
  cases spelled with
  | nil => cases first
  | cons c rest =>
    refine ⟨c, rest, rfl, ?_⟩
    cases space : isSpace c with
    | false => rfl
    | true =>
      rw [no_token_at_space c rest space] at first
      cases first

theorem scan_blanks (blanks text : List Char) (blank : Blanks blanks) (fuel : Nat) (done : List Token) :
    scanWithin false (blanks.length + fuel) (blanks ++ text) done = scanWithin false fuel text done := by
  induction blanks with
  | nil => rw [List.length_nil, Nat.zero_add, List.nil_append]
  | cons c blanks ih =>
    have more : (c :: blanks).length + fuel = blanks.length + fuel + 1 := by
      rw [List.length_cons]
      omega
    rw [more, List.cons_append, scanWithin, if_pos (blank c List.mem_cons_self),
      ih fun other later => blank other (List.mem_cons_of_mem c later)]

-- Each blank and each token take a character at least, so fuel that covers the text
-- covers what is left of it after them.
theorem scan_within (tokens : List Token) (text : List Char) (spaced : Spaced tokens text) (apart : Apart tokens)
    (fuel : Nat) (done : List Token) (enough : text.length ≤ fuel) :
    scanWithin false fuel text done = some (done.reverse ++ tokens) := by
  induction spaced generalizing fuel done with
  | nil blanks blank =>
    obtain ⟨fuel, rfl⟩ := Nat.exists_eq_add_of_le enough
    have scanned := scan_blanks blanks [] blank fuel done
    rw [List.append_nil] at scanned
    rw [scanned, List.append_nil, scanWithin]
  | cons token rest blanks spelled text blank written later ih =>
    have first := first_written token spelled text written fun number =>
      number_ends_at rest text later (apart.1 number)
    obtain ⟨c, more, rfl, visible⟩ := written_starts token spelled written
    simp only [List.length_append, List.length_cons] at enough
    obtain ⟨fuel, rfl⟩ : ∃ left, fuel = blanks.length + (left + 1) := ⟨fuel - blanks.length - 1, by omega⟩
    rw [List.append_assoc, scan_blanks blanks _ blank, List.cons_append, scanWithin, if_neg (by simp [visible]),
      ← List.cons_append, first]
    have scanned := ih apart.2 fuel (token :: done) (by omega)
    simpa using scanned

theorem spaced_after_blank (c : Char) (tokens : List Token) (text : List Char) (space : isSpace c = true)
    (spaced : Spaced tokens text) : Spaced tokens (c :: text) := by
  have blank (blanks : List Char) (others : Blanks blanks) : Blanks (c :: blanks) :=
    List.forall_mem_cons.mpr ⟨space, others⟩
  cases spaced with
  | nil _ others => exact .nil _ (blank _ others)
  | cons token rest blanks spelled text others first later =>
    exact .cons token rest (c :: blanks) spelled text (blank _ others) first later

theorem spaced_within (fuel : Nat) (text : List Char) (done tokens : List Token)
    (found : scanWithin false fuel text done = some tokens) :
    ∃ later, tokens = done.reverse ++ later ∧ Spaced later text := by
  fun_induction scanWithin false fuel text done with
  | case1 =>
    cases found
    exact ⟨[], (List.append_nil _).symm, .nil [] nofun⟩
  | case3 fuel c text done space ih =>
    obtain ⟨later, rfl, spaced⟩ := ih found
    exact ⟨later, rfl, spaced_after_blank c later text space spaced⟩
  | case4 fuel c text done _ token rest first ih =>
    obtain ⟨later, rfl, spaced⟩ := ih found
    obtain ⟨spelled, same, written⟩ := written_first _ _ _ first
    rw [same]
    exact ⟨token :: later, by simp, .cons token later [] spelled rest nofun written spaced⟩
  | case2 | case5 => cases found

theorem scan_spaced (tokens : List Token) (text : List Char) (spaced : Spaced tokens text)
    (apart : Apart tokens) : scan false text = some tokens :=
  scan_within tokens text spaced apart _ [] (Nat.le_refl _)

theorem spaced_of_scan (text : List Char) (tokens : List Token) (found : scan false text = some tokens) :
    Spaced tokens text := by
  obtain ⟨_, rfl, spaced⟩ := spaced_within _ _ _ _ found
  exact spaced

theorem ragged_not_spaced (tokens : List Token) (text : List Char) (spaced : Spaced tokens text)
    (units : List Unit16) : .ragged units ∉ tokens := by
  induction spaced with
  | nil => exact List.not_mem_nil
  | cons token rest _ _ _ _ first _ ih =>
    intro member
    rcases List.mem_cons.mp member with same | later
    · rw [← same] at first
      exact first
    · exact ih later

def isProper : Token → Bool
  | .string none => false
  | .ragged _ => false
  | _ => true

theorem loose_body (text rest : List Char) (done units : List Unit16)
    (found : stringBody false text done = some (units, rest)) :
    stringBody true text done = some (units, rest) := by
  fun_induction stringBody false text done with
  | case1 => exact found
  | case2 a b c d _ _ w x y z digits ih =>
    simp only [stringBody, digits]
    exact ih found
  | case4 c _ _ other letter known ih =>
    rw [stringBody, known]
    · exact ih found
    · exact other
  | case6 _ _ _ _ _ _ _ loose => cases loose
  | case8 c text _ quote code backslash visible ih =>
    rw [stringBody, if_neg visible]
    · exact ih found
    · exact quote
    · exact code
    · exact backslash
  | case3 | case5 | case7 | case9 => cases found

theorem loose_first (text rest : List Char) (token : Token) (found : first? false text = some (token, rest))
    (proper : token.isProper = true) : first? true text = some (token, rest) := by
  unfold first? at found ⊢
  split at found
  case h_10 text =>
    obtain ⟨⟨units, left⟩, read, same⟩ := Option.map_eq_some_iff.mp found
    cases same
    rw [loose_body text left [] units read, Option.map_some]
    rw [of_units_strict] at proper ⊢
    cases paired : pairUp units [] with
    | some letters => simp [ofUnits, paired]
    | none =>
      rw [paired] at proper
      cases proper
  all_goals exact found

theorem loose_within (fuel : Nat) (text : List Char) (done tokens : List Token)
    (found : scanWithin false fuel text done = some tokens) (proper : ∀ token ∈ tokens, token.isProper = true) :
    scanWithin true fuel text done = some tokens := by
  fun_induction scanWithin false fuel text done with
  | case1 =>
    rw [scanWithin]
    exact found
  | case3 fuel c text done space ih =>
    rw [scanWithin, if_pos space]
    exact ih found
  | case4 fuel c text done visible token rest first ih =>
    obtain ⟨later, scanned, _⟩ := spaced_within _ _ _ _ found
    have member : token ∈ tokens := by
      rw [scanned]
      simp
    rw [scanWithin, if_neg visible, loose_first _ _ _ first (proper token member)]
    exact ih found
  | case2 | case5 => cases found

theorem name_texts_proper (tokens : List Token) (proper : ∀ token ∈ tokens, token.isProper = true) :
    nameTexts tokens = tokens := by
  fun_induction nameTexts tokens with
  | case1 units rest => cases proper _ List.mem_cons_self
  | case2 token rest _ ih => rw [ih fun other later => proper other (List.mem_cons_of_mem token later)]
  | case3 => rfl

end Token

end ChangeApply.Json
