import ChangeApply.Identifier

set_option autoImplicit false

/- A name in backticks ends where it was meant to end, whatever it holds, and says which
   name it is. What follows it may not start with a backtick: two backticks are one. -/
namespace ChangeApply.Identifier

theorem inside_escape (name rest : List Char) (ended : rest.head? ≠ some backtick) :
    inside (escape name ++ backtick :: rest) = some (name, rest) := by
  induction name with
  | nil =>
    cases rest with
    | nil => rfl
    | cons c rest =>
      have single : ¬ c = backtick := fun same => ended (same ▸ rfl)
      rw [escape, List.nil_append, inside, if_pos rfl, if_neg single]
  | cons c name ih =>
    by_cases tick : c = backtick
    · rw [escape, if_pos tick, List.cons_append, List.cons_append, inside, if_pos rfl, if_pos rfl, ih, tick]
      rfl
    · rw [escape, if_neg tick, List.cons_append]
      cases more : escape name ++ backtick :: rest with
      | nil => simp at more
      | cons next text =>
        rw [inside, if_neg tick, ← more, ih]
        rfl

-- Induction as the scan goes: a pair of backticks is one letter of the name, so what is
-- left always starts at the border of a pair.
theorem escape_of_inside (text name rest : List Char) (found : inside text = some (name, rest)) :
    text = escape name ++ backtick :: rest ∧ rest.head? ≠ some backtick := by
  fun_induction inside text generalizing name rest with
  | case1 => cases found
  | case2 =>
    cases found
    exact ⟨rfl, nofun⟩
  | case3 => cases found
  | case4 text ih =>
    obtain ⟨⟨inner, after⟩, closed, same⟩ := Option.map_eq_some_iff.mp found
    cases same
    obtain ⟨spelled, ended⟩ := ih inner after closed
    rw [escape, if_pos rfl, List.cons_append, List.cons_append, ← spelled]
    exact ⟨rfl, ended⟩
  | case5 next text single =>
    cases found
    exact ⟨rfl, fun same => single (Option.some.inj same)⟩
  | case6 c next text plain ih =>
    obtain ⟨⟨inner, after⟩, closed, same⟩ := Option.map_eq_some_iff.mp found
    cases same
    obtain ⟨spelled, ended⟩ := ih inner after closed
    rw [escape, if_neg plain, List.cons_append, ← spelled]
    exact ⟨rfl, ended⟩

theorem scan_iff (text name rest : List Char) :
    scan text = some (name, rest) ↔ text = encode name ++ rest ∧ rest.head? ≠ some backtick := by
  have opened : encode name ++ rest = backtick :: (escape name ++ backtick :: rest) := by
    rw [encode, List.cons_append, List.cons_append, List.append_assoc, List.singleton_append]
  rw [opened]
  constructor
  · intro found
    cases text with
    | nil => cases found
    | cons c text =>
      by_cases tick : c = backtick
      · rw [scan, if_pos tick] at found
        obtain ⟨spelled, ended⟩ := escape_of_inside text name rest found
        exact ⟨by rw [tick, spelled], ended⟩
      · rw [scan, if_neg tick] at found
        cases found
  · rintro ⟨rfl, ended⟩
    rw [scan, if_pos rfl]
    exact inside_escape name rest ended

theorem inside_shorter (text name rest : List Char) (found : inside text = some (name, rest)) :
    rest.length < text.length := by
  rw [(escape_of_inside text name rest found).1, List.length_append, List.length_cons]
  omega

-- Two names with something behind each: no backtick of one can pass for the other's end.
theorem encode_append_inj (left right first second : List Char) (endedFirst : first.head? ≠ some backtick)
    (endedSecond : second.head? ≠ some backtick) (same : encode left ++ first = encode right ++ second) :
    left = right ∧ first = second := by
  have scannedLeft := (scan_iff _ left first).mpr ⟨rfl, endedFirst⟩
  have scannedRight := (scan_iff _ right second).mpr ⟨rfl, endedSecond⟩
  rw [same, scannedRight] at scannedLeft
  cases scannedLeft
  exact ⟨rfl, rfl⟩

theorem encode_injective (left right : List Char) (same : encode left = encode right) : left = right :=
  (encode_append_inj left right [] [] nofun nofun (congrArg (· ++ []) same)).1

theorem encode_qualified_injective (schema table otherSchema otherTable : String)
    (same : encodeQualified schema table = encodeQualified otherSchema otherTable) :
    schema = otherSchema ∧ table = otherTable := by
  have dot (rest : List Char) : ('.' :: rest).head? ≠ some backtick := by
    rw [List.head?_cons]
    decide
  obtain ⟨schemas, tables⟩ := encode_append_inj _ _ _ _ (dot _) (dot _) same
  exact ⟨String.toList_inj.mp schemas,
    String.toList_inj.mp (encode_injective _ _ (List.cons.inj tables).2)⟩

theorem quote_to_list (name : String) : (quote name).toList = encode name.toList := String.toList_ofList

theorem quote_injective : Function.Injective quote := by
  intro left right same
  have letters := congrArg String.toList same
  rw [quote_to_list, quote_to_list] at letters
  exact String.toList_inj.mp (encode_injective _ _ letters)

theorem scan_whole_iff (text : String) (letters : List Char) :
    scan text.toList = some (letters, []) ↔ quote (String.ofList letters) = text := by
  rw [scan_iff, List.append_nil, and_iff_left nofun, eq_comm, ← String.toList_inj, quote_to_list,
    String.toList_ofList]

theorem quoted_names_are_read_back :
    (∀ name rest : String, rest.toList.head? ≠ some backtick →
      scan (quote name ++ rest).toList = some (name.toList, rest.toList)) ∧
    (∀ (text : String) (letters : List Char), scan text.toList = some (letters, []) →
      ∃ name : String, name.toList = letters ∧ quote name = text ∧
        ∀ other, quote other = text → other = name) ∧
    Function.Injective quote ∧
    ∀ schema table otherSchema otherTable : String,
      qualified schema table = qualified otherSchema otherTable →
        schema = otherSchema ∧ table = otherTable := by
  refine ⟨?_, ?_, quote_injective, ?_⟩
  · intro name rest ended
    rw [String.toList_append, quote_to_list]
    exact (scan_iff _ _ _).mpr ⟨rfl, ended⟩
  · intro text letters whole
    have quoted := (scan_whole_iff text letters).mp whole
    refine ⟨String.ofList letters, String.toList_ofList, quoted, fun other same => ?_⟩
    exact quote_injective (same.trans quoted.symm)
  · intro schema table otherSchema otherTable same
    exact encode_qualified_injective _ _ _ _ (String.ofList_injective same)

theorem ticked_names_are_read_back :
    (" AS `b`".toList.head? ≠ some backtick ∧
      scan (quote "`a``" ++ " AS `b`").toList = some ("`a``".toList, " AS `b`".toList)) ∧
    (scan "````".toList = some ([backtick], []) ∧
      ∃ name : String, name.toList = [backtick] ∧ quote name = "````" ∧
        ∀ other, quote other = "````" → other = name) ∧
    qualified "a`.`b" "c" ≠ qualified "a" "b`.`c" := by
  have ended : " AS `b`".toList.head? ≠ some backtick := by decide
  have whole : scan "````".toList = some ([backtick], []) := by decide
  refine ⟨⟨ended, quoted_names_are_read_back.1 _ _ ended⟩,
    ⟨whole, quoted_names_are_read_back.2.1 _ _ whole⟩, fun same => ?_⟩
  exact absurd (quoted_names_are_read_back.2.2.2 _ _ _ _ same).1 (by decide)

end ChangeApply.Identifier
