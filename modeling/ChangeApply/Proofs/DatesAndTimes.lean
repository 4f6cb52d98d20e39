import ChangeApply.Calendar.Clock

set_option autoImplicit false

namespace ChangeApply

theorem Blank.digit_not_blank (c : Char) (digit : c.isDigit = true) : isBlank c = false := by
  have bounds : 48 ≤ c.toNat ∧ c.toNat ≤ 57 := Char.isDigit_iff_toNat.mp digit
  simp [isBlank, CharRange.covers, ranges]
  omega

theorem Numeral.padded_ne_nil (width number : Nat) : padded width number ≠ [] := by
  simp [padded, digits_ne_nil]

theorem Numeral.length_padded (width number : Nat) (positive : 0 < width)
    (fits : number < Nat.pow 10 width) : (padded width number).length = width := by
  have short := (Nat.length_toDigits_le_iff (by decide) positive).mpr fits
  simp only [padded, digits, List.length_append, List.length_replicate]
  omega

namespace Calendar

theorem skip_numeral (spelled rest : List Char) (numeral : ∀ c ∈ spelled, c.isDigit = true)
    (nonempty : spelled ≠ []) : Blank.skip (spelled ++ rest) = spelled ++ rest := by
  obtain ⟨c, more, rfl, digit, _⟩ := Numeral.first_digit spelled numeral nonempty
  exact Blank.skip_of_not_blank c _ (Blank.digit_not_blank c digit)

theorem number_padded (width value : Nat) (rest : List Char) (positive : 0 < width)
    (fits : value < Nat.pow 10 width) :
    number width (Numeral.padded width value ++ rest) = some (value, rest) := by
  have numeral := Numeral.padded_digits width value
  have length := Numeral.length_padded width value positive fits
  have first : (Numeral.padded width value ++ rest).take width = Numeral.padded width value := by
    rw [List.take_append_of_le_length (by omega), List.take_of_length_le (by omega)]
  have leading := Numeral.leading_append _ [] numeral Numeral.ends_nil
  rw [List.append_nil] at leading
  simp [number, skip_numeral _ rest numeral (Numeral.padded_ne_nil width value), first, leading,
    Numeral.padded_ne_nil, Numeral.value_padded]

theorem mark_written (c : Char) (rest : List Char) (visible : Blank.isBlank c = false) :
    mark c (c :: rest) = some rest := by
  rw [mark, Blank.skip_of_not_blank c rest visible]
  exact if_pos rfl

theorem unbounded_padded (width value : Nat) (rest : List Char) (ended : Numeral.Ends rest) :
    unbounded (Numeral.padded width value ++ rest) = some (value, rest) := by
  simp [unbounded, Numeral.leading_append _ rest (Numeral.padded_digits width value) ended,
    Numeral.padded_ne_nil, Numeral.value_padded]

theorem days_in_bounds (year : Int) (month : Nat) : daysIn year month ≤ 31 := by
  unfold daysIn
  split
  · split <;> decide
  · split <;> decide

end Calendar

namespace Date

theorem year_written (value : Int) (rest : List Char) (ended : Numeral.Ends rest) :
    Calendar.year (yearText value ++ rest) = some (value, rest) := by
  by_cases plain : 0 ≤ value ∧ value ≤ 9999
  · have size : value.natAbs < 10000 := by omega
    have back : (value.natAbs : Int) = value := by omega
    have read := Calendar.number_padded 4 value.natAbs rest (by decide) size
    have numeral := Numeral.padded_digits 4 value.natAbs
    have nonempty := Numeral.padded_ne_nil 4 value.natAbs
    obtain ⟨c, more, spelled, _, notMinus, notPlus⟩ := Numeral.first_digit _ numeral nonempty
    rw [yearText, if_pos plain, Calendar.year, Calendar.skip_numeral _ rest numeral nonempty]
    rw [spelled, List.cons_append] at read ⊢
    simp [notMinus, notPlus, read, back]
  · rw [yearText, if_neg plain]
    have read := Calendar.unbounded_padded 4 value.natAbs rest ended
    by_cases negative : value < 0
    · have back : -(value.natAbs : Int) = value := by omega
      rw [if_pos negative, List.cons_append, Calendar.year, Blank.skip_of_not_blank _ _ (by decide)]
      simp only [read, Option.map_some, back]
    · have back : (value.natAbs : Int) = value := by omega
      rw [if_neg negative, List.cons_append, Calendar.year, Blank.skip_of_not_blank _ _ (by decide)]
      simp only [read, Option.map_some, back]

theorem scan_render (date : Date) (rest : List Char) :
    scan (date.render ++ rest) = some (date, rest) := by
  obtain ⟨year, month, day, onCalendar⟩ := date
  have ⟨_, _, _, lastMonth, _, lastDay⟩ := onCalendar
  have days := Calendar.days_in_bounds year month
  have months : month < 100 := by omega
  have fits : day < 100 := by omega
  simp only [render, List.append_assoc, List.cons_append]
  rw [scan, year_written year _ (Numeral.ends_cons '-' _ rfl)]
  simp only [Option.bind_eq_bind, Option.bind_some, Calendar.mark_written '-' _ (by decide),
    Calendar.number_padded 2 month _ (by decide) months,
    Calendar.number_padded 2 day _ (by decide) fits, ofParts?, dif_pos onCalendar]
  rfl

theorem read_text (date : Date) : read date.text = some date := by
  have scanned := scan_render date []
  rw [List.append_nil] at scanned
  rw [read, text, String.toList_ofList, scanned]
  rfl

end Date

namespace Time

theorem fraction_padded (width value : Nat) (positive : 0 < width) (short : width ≤ 9)
    (fits : value < Nat.pow 10 width) :
    fraction ('.' :: Numeral.padded width value) = some (value * Nat.pow 10 (9 - width), []) := by
  have length := Numeral.length_padded width value positive fits
  have leading := Numeral.leading_append _ [] (Numeral.padded_digits width value) Numeral.ends_nil
  rw [List.append_nil] at leading
  have kept : (Numeral.padded width value).take 9 = Numeral.padded width value :=
    List.take_of_length_le (by omega)
  simp [fraction, leading, kept, Numeral.padded_ne_nil, Numeral.value_padded, length]

theorem fraction_text (nanosecond : Nat) (fits : nanosecond ≤ 999999999) :
    fraction (fractionText nanosecond) = some (nanosecond, []) := by
  by_cases zero : nanosecond = 0
  · subst zero
    rfl
  · rw [fractionText, if_neg zero]
    by_cases millis : nanosecond % 1000000 = 0
    · have short : nanosecond / 1000000 < 1000 := by omega
      have back : nanosecond / 1000000 * 1000000 = nanosecond := by omega
      rw [if_pos millis, fraction_padded 3 _ (by decide) (by decide) short]
      exact congrArg (fun size => some (size, [])) back
    · rw [if_neg millis]
      by_cases micros : nanosecond % 1000 = 0
      · have short : nanosecond / 1000 < 1000000 := by omega
        have back : nanosecond / 1000 * 1000 = nanosecond := by omega
        rw [if_pos micros, fraction_padded 6 _ (by decide) (by decide) short]
        exact congrArg (fun size => some (size, [])) back
      · have short : nanosecond < 1000000000 := by omega
        rw [if_neg micros, fraction_padded 9 _ (by decide) (by decide) short]
        exact congrArg (fun size => some (size, [])) (Nat.mul_one nanosecond)

theorem hour_and_minute_written (time : Time) (rest : List Char) :
    hourAndMinute (Numeral.padded 2 time.hour ++ ':' :: (Numeral.padded 2 time.minute ++ rest)) =
      some (time.hour, time.minute, rest) := by
  have ⟨hour, minute, _, _⟩ := time.onClock
  have hours : time.hour < 100 := by omega
  have minutes : time.minute < 100 := by omega
  simp only [hourAndMinute, Option.bind_eq_bind, Option.bind_some,
    Calendar.number_padded 2 time.hour _ (by decide) hours, Calendar.mark_written ':' _ (by decide),
    Calendar.number_padded 2 time.minute _ (by decide) minutes]
  rfl

theorem shown_bounds (time : Time) : time.shownSecond ≤ 60 ∧ time.shownNanosecond ≤ 999999999 := by
  have ⟨_, _, second, _⟩ := time.onClock
  unfold shownSecond shownNanosecond
  split <;> omega

theorem second_and_fraction_written (time : Time) :
    secondAndFraction (':' :: (Numeral.padded 2 time.shownSecond ++ fractionText time.shownNanosecond)) =
      some (time.shownSecond, time.shownNanosecond, []) := by
  have ⟨second, nanosecond⟩ := time.shown_bounds
  have seconds : time.shownSecond < 100 := by omega
  simp only [secondAndFraction, Option.bind_eq_bind, Option.bind_some,
    Calendar.mark_written ':' _ (by decide),
    Calendar.number_padded 2 time.shownSecond _ (by decide) seconds, fraction_text _ nanosecond]
  rfl

/-- The leap second, if the time is in one, ends a minute. -/
def Regular (time : Time) : Prop := time.nanosecond < 1000000000 ∨ time.second = 59

def settled (time : Time) : Time :=
  if strange : 1000000000 ≤ time.nanosecond ∧ time.second < 59 then
    ⟨time.hour, time.minute, time.second + 1, time.nanosecond - 1000000000, by have := time.onClock; omega⟩
  else time

theorem settled_eq_iff (time : Time) : time.settled = time ↔ time.Regular := by
  have ⟨_, _, second, _⟩ := time.onClock
  unfold settled Regular
  split
  next strange =>
    refine iff_of_false (fun same => ?_) (by omega)
    have later := congrArg Time.second same
    dsimp only at later
    omega
  next plain => exact iff_of_true rfl (by omega)

theorem of_shown (time : Time) :
    ofShown? time.hour time.minute time.shownSecond time.shownNanosecond = some time.settled := by
  have ⟨_, _, second, _⟩ := time.onClock
  have ⟨lastSecond, lastNanosecond⟩ := time.shown_bounds
  rw [ofShown?, dif_pos (by omega)]
  by_cases plain : time.nanosecond < 1000000000
  · have shown : time.shownSecond = time.second := if_pos plain
    have kept : time.shownNanosecond = time.nanosecond := Nat.mod_eq_of_lt plain
    rw [dif_pos (by omega), settled, dif_neg (by omega)]
    simp only [shown, kept]
  · have shown : time.shownSecond = time.second + 1 := if_neg plain
    have rest : time.shownNanosecond = time.nanosecond - 1000000000 := by
      rw [shownNanosecond]
      omega
    by_cases early : time.second < 59
    · rw [dif_pos (by omega), settled, dif_pos (by omega)]
      simp only [shown, rest]
    · have last : time.second = 59 := by omega
      have whole : 1000000000 + (time.nanosecond - 1000000000) = time.nanosecond := by omega
      rw [dif_neg (by omega), settled, dif_neg (by omega)]
      simp only [rest, whole, ← last]

theorem read_settled (time : Time) : read time.text = some time.settled := by
  simp only [read, text, render, String.toList_ofList, List.append_assoc, List.cons_append,
    Option.bind_eq_bind, hour_and_minute_written, Option.bind_some, second_and_fraction_written,
    Option.getD_some, of_shown]
  rfl

theorem read_text_iff (time : Time) : read time.text = some time ↔ time.Regular := by
  rw [read_settled, Option.some.injEq, settled_eq_iff]

theorem regular_of_shown (hour minute second nanosecond : Nat) (time : Time)
    (found : ofShown? hour minute second nanosecond = some time) : time.Regular := by
  unfold ofShown? at found
  split at found
  next shown =>
    split at found
    next =>
      cases found
      have short : nanosecond < 1000000000 := by omega
      exact .inl short
    next =>
      cases found
      exact .inr rfl
  next => cases found

theorem regular_of_read (text : String) (time : Time) (found : read text = some time) : time.Regular := by
  obtain ⟨⟨hour, minute, rest⟩, _, found⟩ := Option.bind_eq_some_iff.mp found
  obtain ⟨_, shown⟩ := Option.ite_none_right_eq_some.mp found
  exact regular_of_shown _ _ _ _ time shown

end Time

namespace Moment

theorem read_settled (moment : Moment) :
    read (moment.text 'T') = some { moment with time := moment.time.settled } := by
  simp only [read, text, render, Time.render, String.toList_ofList, List.append_assoc,
    List.cons_append, Option.bind_eq_bind, Date.scan_render, Option.bind_some,
    Calendar.mark_written 'T' _ (by decide), Time.hour_and_minute_written,
    Time.second_and_fraction_written, Time.of_shown]
  rfl

theorem read_text_iff (moment : Moment) : read (moment.text 'T') = some moment ↔ moment.time.Regular := by
  rw [read_settled, Option.some.injEq, ← Time.settled_eq_iff]
  exact ⟨congrArg time, fun same => by rw [same]⟩

theorem regular_of_read (text : String) (moment : Moment) (found : read text = some moment) :
    moment.time.Regular := by
  obtain ⟨_, _, found⟩ := Option.bind_eq_some_iff.mp found
  obtain ⟨_, _, found⟩ := Option.bind_eq_some_iff.mp found
  obtain ⟨_, _, found⟩ := Option.bind_eq_some_iff.mp found
  obtain ⟨_, _, found⟩ := Option.bind_eq_some_iff.mp found
  obtain ⟨time, shown, found⟩ := Option.bind_eq_some_iff.mp found
  obtain ⟨_, built⟩ := Option.ite_none_right_eq_some.mp found
  cases built
  exact Time.regular_of_shown _ _ _ _ time shown

end Moment

end ChangeApply
