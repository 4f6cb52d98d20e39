import ChangeApply.Proofs.Spelling

set_option autoImplicit false

namespace ChangeApply.Json

def NumberEnds (rest : List Char) : Prop :=
  Numeral.Ends rest ∧ ∀ c ∈ rest.head?, c ≠ '.' ∧ c ≠ 'e' ∧ c ≠ 'E'

theorem number_ends_nil : NumberEnds [] := ⟨Numeral.ends_nil, fun _ none => nomatch none⟩

theorem leading_digits (text : List Char) (some_digits : Numeral.leading text ≠ []) :
    Digits (Numeral.leading text) :=
  ⟨some_digits, List.all_eq_true.mp List.all_takeWhile⟩

theorem leading_drop (text : List Char) :
    text = Numeral.leading text ++ text.drop (Numeral.leading text).length := by
  have prefixed := List.takeWhile_prefix (l := text) Char.isDigit
  exact (List.prefix_iff_eq_append.mp prefixed).symm

theorem leading_spelled (digits rest : List Char) (spelled : Digits digits) (ended : Numeral.Ends rest) :
    Numeral.leading (digits ++ rest) = digits ∧ digits.isEmpty = false ∧
      (digits ++ rest).drop digits.length = rest :=
  ⟨Numeral.leading_append digits rest spelled.2 ended, by simpa using spelled.1, List.drop_left⟩

theorem whole_digits (digits rest : List Char) (whole : WholeDigits digits) (ended : Numeral.Ends rest) :
    wholeDigits (digits ++ rest) = some (digits, rest) := by
  rcases whole with rfl | ⟨spelled, other⟩
  · rfl
  · obtain ⟨leading, some_digits, left⟩ := leading_spelled digits rest spelled ended
    unfold wholeDigits
    split
    next more opened =>
      cases digits with
      | nil => exact absurd rfl spelled.1
      | cons c more =>
        cases opened
        exact absurd rfl other
    next => simp only [leading, some_digits, left, Bool.false_eq_true, if_false]

theorem written_whole_digits (text digits rest : List Char) (found : wholeDigits text = some (digits, rest)) :
    text = digits ++ rest ∧ WholeDigits digits := by
  unfold wholeDigits at found
  split at found
  next rest =>
    cases found
    exact ⟨rfl, .inl rfl⟩
  next other =>
    dsimp only at found
    split at found
    next => cases found
    next some_digits =>
      cases found
      refine ⟨leading_drop text, .inr ⟨leading_digits text (by simpa using some_digits), ?_⟩⟩
      intro zero
      obtain ⟨more, spelled⟩ := List.head?_eq_some_iff.mp zero
      have opened := leading_drop text
      rw [spelled, List.cons_append] at opened
      exact other _ opened

theorem fraction_digits (fraction point rest : List Char) (fractional : Fraction fraction point)
    (ended : Numeral.Ends rest) (unpointed : rest.head? ≠ some '.') :
    fractionDigits (point ++ rest) = some (fraction, rest) := by
  cases fractional with
  | none =>
    cases rest with
    | nil => rfl
    | cons c rest =>
      have other : ¬ c = '.' := fun same => unpointed (congrArg some same)
      simp [fractionDigits, other]
  | point digits spelled =>
    obtain ⟨leading, some_digits, left⟩ := leading_spelled fraction rest spelled ended
    simp only [List.cons_append, fractionDigits, leading, some_digits, left, Bool.false_eq_true, if_false]

theorem written_fraction_digits (text fraction rest : List Char)
    (found : fractionDigits text = some (fraction, rest)) :
    ∃ point, text = point ++ rest ∧ Fraction fraction point := by
  unfold fractionDigits at found
  split at found
  next text =>
    dsimp only at found
    split at found
    next => cases found
    next some_digits =>
      cases found
      refine ⟨'.' :: Numeral.leading text, congrArg _ (leading_drop text), .point _ ?_⟩
      exact leading_digits text (by simpa using some_digits)
  next =>
    cases found
    exact ⟨[], rfl, .none⟩

theorem exponent_digits (negative : Bool) (digits rest : List Char) (spelled : Digits digits)
    (ended : Numeral.Ends rest) :
    exponentDigits negative (digits ++ rest) =
      some (some (if negative then -(Numeral.value digits : Int) else Numeral.value digits), rest) := by
  obtain ⟨leading, some_digits, left⟩ := leading_spelled digits rest spelled ended
  simp only [exponentDigits, leading, some_digits, left, Bool.false_eq_true, if_false]

theorem written_exponent_digits (negative : Bool) (text rest : List Char) (exponent : Option Int)
    (found : exponentDigits negative text = some (exponent, rest)) :
    ∃ digits, text = digits ++ rest ∧ Digits digits ∧
      exponent = some (if negative then -(Numeral.value digits : Int) else Numeral.value digits) := by
  unfold exponentDigits at found
  dsimp only at found
  split at found
  next => cases found
  next some_digits =>
    cases found
    exact ⟨_, leading_drop text, leading_digits text (by simpa using some_digits), rfl⟩

theorem exponent_part (exponent : Option Int) (mark rest : List Char) (scaled : Exponent exponent mark)
    (ended : NumberEnds rest) : exponentPart (mark ++ rest) = some (exponent, rest) := by
  cases scaled with
  | none =>
    cases rest with
    | nil => rfl
    | cons c rest => simp [exponentPart, (ended.2 c rfl).2.1, (ended.2 c rfl).2.2]
  | plain mark digits marked spelled =>
    have read := exponent_digits false digits rest spelled ended.1
    obtain ⟨c, more, rfl, -, minus, plus⟩ := Numeral.first_digit digits spelled.2 spelled.1
    rw [List.cons_append] at read
    simpa [exponentPart, marked, minus, plus] using read
  | positive mark digits marked spelled =>
    rw [List.cons_append, List.cons_append, exponentPart, if_pos marked]
    exact exponent_digits false digits rest spelled ended.1
  | negative mark digits marked spelled =>
    rw [List.cons_append, List.cons_append, exponentPart, if_pos marked]
    exact exponent_digits true digits rest spelled ended.1

theorem written_exponent_part (text rest : List Char) (exponent : Option Int)
    (found : exponentPart text = some (exponent, rest)) :
    ∃ mark, text = mark ++ rest ∧ Exponent exponent mark := by
  unfold exponentPart at found
  split at found
  next c text =>
    split at found
    next marked =>
      split at found
      next text =>
        obtain ⟨digits, rfl, spelled, rfl⟩ := written_exponent_digits _ _ _ _ found
        exact ⟨_, rfl, .negative c digits marked spelled⟩
      next text =>
        obtain ⟨digits, rfl, spelled, rfl⟩ := written_exponent_digits _ _ _ _ found
        exact ⟨_, rfl, .positive c digits marked spelled⟩
      next =>
        obtain ⟨digits, rfl, spelled, rfl⟩ := written_exponent_digits _ _ _ _ found
        exact ⟨_, rfl, .plain c digits marked spelled⟩
    next =>
      cases found
      exact ⟨[], rfl, .none⟩
  next =>
    cases found
    exact ⟨[], rfl, .none⟩

-- The first digit tells a number apart from its sign.
theorem scan_sign (negative : Bool) (digits rest : List Char) (whole : WholeDigits digits) :
    scanNumber (sign negative ++ (digits ++ rest)) = scanUnsigned negative (digits ++ rest) := by
  cases negative with
  | true => rfl
  | false =>
    rcases whole with rfl | ⟨spelled, -⟩
    · rfl
    · obtain ⟨c, more, rfl, -, minus, -⟩ := Numeral.first_digit digits spelled.2 spelled.1
      simp [scanNumber, sign, minus]

theorem ends_at_mark (exponent : Option Int) (mark rest : List Char) (scaled : Exponent exponent mark)
    (ended : NumberEnds rest) : Numeral.Ends (mark ++ rest) ∧ (mark ++ rest).head? ≠ some '.' := by
  have mark_ends (c : Char) (more : List Char) (marked : c = 'e' ∨ c = 'E') :
      Numeral.Ends (c :: more) ∧ (c :: more).head? ≠ some '.' := by
    rcases marked with rfl | rfl <;> exact ⟨Numeral.ends_cons _ _ rfl, by simp⟩
  cases scaled with
  | none => exact ⟨ended.1, fun pointed => (ended.2 '.' pointed).1 rfl⟩
  | plain _ _ marked | positive _ _ marked | negative _ _ marked => exact mark_ends _ _ marked

theorem ends_at_point (fraction point rest : List Char) (fractional : Fraction fraction point)
    (ended : Numeral.Ends rest) : Numeral.Ends (point ++ rest) := by
  cases fractional with
  | none => exact ended
  | point => exact Numeral.ends_cons '.' _ rfl

theorem scan_unsigned_parts (negative : Bool) (text : List Char) :
    scanUnsigned negative text = do
      let (digits, rest) ← wholeDigits text
      let (fraction, rest) ← fractionDigits rest
      let (exponent, rest) ← exponentPart rest
      return (.ofParts negative digits fraction exponent, rest) := by
  rw [scanUnsigned]
  refine bind_congr fun (digits, _) => bind_congr fun (fraction, _) => bind_congr fun (exponent, rest) => ?_
  by_cases zero : Numeral.value (digits ++ fraction) = 0 <;>
    cases negative <;> cases fraction <;> cases exponent <;> simp_all [Number.ofParts]

theorem scan_number (number : Number) (spelled rest : List Char) (written : number.Written spelled)
    (ended : NumberEnds rest) : scanNumber (spelled ++ rest) = some (number, rest) := by
  obtain ⟨negative, digits, fraction, point, mark, exponent, whole, fractional, scaled⟩ := written
  obtain ⟨marked, unpointed⟩ := ends_at_mark exponent mark rest scaled ended
  have pointed := ends_at_point fraction point _ fractional marked
  rw [List.append_assoc, List.append_assoc, List.append_assoc, scan_sign negative digits _ whole,
    scan_unsigned_parts, whole_digits digits _ whole pointed]
  simp only [Option.bind_eq_bind, Option.bind_some, exponent_part exponent mark rest scaled ended,
    fraction_digits fraction point _ fractional marked unpointed]
  rfl

theorem written_unsigned (negative : Bool) (text rest : List Char) (number : Number)
    (found : scanUnsigned negative text = some (number, rest)) :
    ∃ spelled, text = spelled ++ rest ∧ number.Written (sign negative ++ spelled) := by
  simp only [scan_unsigned_parts, Option.bind_eq_bind, Option.bind_eq_some_iff, Prod.exists] at found
  obtain ⟨digits, _, foundWhole, fraction, _, foundFraction, exponent, left, foundExponent, made⟩ := found
  obtain ⟨rfl, whole⟩ := written_whole_digits _ _ _ foundWhole
  obtain ⟨point, rfl, fractional⟩ := written_fraction_digits _ _ _ foundFraction
  obtain ⟨mark, rfl, scaled⟩ := written_exponent_part _ _ _ foundExponent
  cases made
  exact ⟨digits ++ (point ++ mark), by simp,
    .parts negative digits fraction point mark exponent whole fractional scaled⟩

theorem written_number (text rest : List Char) (number : Number)
    (found : scanNumber text = some (number, rest)) :
    ∃ spelled, text = spelled ++ rest ∧ number.Written spelled := by
  unfold scanNumber at found
  split at found
  next text =>
    obtain ⟨spelled, rfl, written⟩ := written_unsigned true text rest number found
    exact ⟨_, rfl, written⟩
  next => exact written_unsigned false text rest number found

end ChangeApply.Json
