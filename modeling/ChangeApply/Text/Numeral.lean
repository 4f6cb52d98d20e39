set_option autoImplicit false

namespace ChangeApply.Numeral

def digits (number : Nat) : List Char := Nat.toDigits 10 number

def padded (width number : Nat) : List Char :=
  List.replicate (width - (digits number).length) '0' ++ digits number

def signed (number : Int) : List Char :=
  if number < 0 then '-' :: digits number.natAbs else digits number.natAbs

def text (number : Nat) : String := String.ofList (digits number)

def value (spelled : List Char) : Nat := Nat.ofDigitChars 10 spelled 0

def leading (spelled : List Char) : List Char := spelled.takeWhile Char.isDigit

def read? (spelled : List Char) : Option Nat :=
  let digits := match spelled with
    | '+' :: rest => rest
    | spelled => spelled
  if digits.isEmpty || !digits.all Char.isDigit then none else some (value digits)

def readSigned? : List Char → Option Int
  | '-' :: '+' :: _ => none
  | '-' :: rest => (read? rest).map fun size => -(size : Int)
  | spelled => (read? spelled).map fun size => (size : Int)

def hexDigit? (c : Char) : Option Nat :=
  if c.isDigit then some (c.toNat - '0'.toNat)
  else if 'a' ≤ c ∧ c ≤ 'f' then some (c.toNat - 'a'.toNat + 10)
  else if 'A' ≤ c ∧ c ≤ 'F' then some (c.toNat - 'A'.toNat + 10)
  else none

theorem value_digits (number : Nat) : value (digits number) = number :=
  Nat.ofDigitChars_ten_toDigits

theorem value_padded (width number : Nat) : value (padded width number) = number := by
  simp [value, padded, Nat.ofDigitChars_append, Nat.ofDigitChars_replicate_zero, digits]

theorem digits_ne_nil (number : Nat) : digits number ≠ [] := Nat.toDigits_ne_nil

theorem digits_digits (number : Nat) (c : Char) (member : c ∈ digits number) : c.isDigit = true :=
  Nat.isDigit_of_mem_toDigits (by decide) (by decide) member

theorem padded_digits (width number : Nat) (c : Char) (member : c ∈ padded width number) :
    c.isDigit = true := by
  rcases List.mem_append.mp member with zero | digit
  · rw [List.eq_of_mem_replicate zero]
    rfl
  · exact digits_digits number c digit

theorem head_digits (number : Nat) (positive : 0 < number) : (digits number).head? ≠ some '0' := by
  induction number using Nat.strongRecOn with
  | ind number ih =>
    by_cases small : number < 10
    · rw [digits, Nat.toDigits_of_lt_base small]
      have other : ∀ digit < 10, 0 < digit → digit.digitChar ≠ '0' := by decide
      exact fun zero => other number small positive (Option.some.inj zero)
    · have large : 10 ≤ number := by omega
      have shorter := ih (number / 10) (by omega) (by omega)
      rw [digits, Nat.toDigits_of_base_le (by decide) large,
        List.head?_append, List.head?_eq_some_head Nat.toDigits_ne_nil, Option.some_or, ← List.head?_eq_some_head]
      exact shorter

theorem first_digit (spelled : List Char) (numeral : ∀ c ∈ spelled, c.isDigit = true)
    (nonempty : spelled ≠ []) :
    ∃ c rest, spelled = c :: rest ∧ c.isDigit = true ∧ c ≠ '-' ∧ c ≠ '+' := by
  cases spelled with
  | nil => exact absurd rfl nonempty
  | cons c rest =>
    have digit := numeral c List.mem_cons_self
    refine ⟨c, rest, rfl, digit, ?_, ?_⟩
    · rintro rfl
      cases digit
    · rintro rfl
      cases digit

def Ends (rest : List Char) : Prop := ∀ c ∈ rest.head?, c.isDigit = false

theorem ends_nil : Ends [] := fun _ none => nomatch none

theorem ends_cons (c : Char) (rest : List Char) (other : c.isDigit = false) : Ends (c :: rest) := by
  intro next first
  cases first
  exact other

theorem leading_append (spelled rest : List Char) (numeral : ∀ c ∈ spelled, c.isDigit = true)
    (ended : Ends rest) : leading (spelled ++ rest) = spelled := by
  rw [leading, List.takeWhile_append_of_pos numeral]
  cases rest with
  | nil => exact List.append_nil spelled
  | cons c rest => rw [List.takeWhile_cons_of_neg (by simp [ended c rfl]), List.append_nil]

end ChangeApply.Numeral
