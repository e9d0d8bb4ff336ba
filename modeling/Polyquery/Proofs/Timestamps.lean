import Mathlib.Data.List.Induction
import Polyquery.Calendar.Instant
import Polyquery.Decimal.Power

/-! Strict timestamps are printed as they were read. Every field has a fixed number
of digits, and a number printed with the digits that spelled it is what it was. -/
namespace Polyquery.Calendar
open Text Decimal

/-! ## Digits -/

theorem digitsValue_concat (digits : List Char) (c : Char) :
    digitsValue (digits ++ [c]) = 10 * digitsValue digits + digitValue c := by
  simp [digitsValue, Nat.mul_comm]

theorem isDigit_iff {c : Char} : isDigit c = true ↔ 48 ≤ c.toNat ∧ c.toNat ≤ 57 := by
  simp [isDigit, Char.le_def, UInt32.le_iff_toNat_le]

theorem digitValue_lt {c : Char} (digit : isDigit c = true) : digitValue c < 10 := by
  have bounds := isDigit_iff.1 digit
  have zero : '0'.toNat = 48 := rfl
  unfold digitValue
  omega

theorem digitChar_digitValue {c : Char} (digit : isDigit c = true) :
    Nat.digitChar (digitValue c) = c := by
  have bounds := isDigit_iff.1 digit
  have zero : '0'.toNat = 48 := rfl
  apply Char.toNat_inj.1
  rw [Nat.toNat_digitChar_of_lt_ten (digitValue_lt digit), digitValue]
  omega

theorem tenTo_succ (n : Nat) : tenTo (n + 1) = tenTo n * 10 := rfl

theorem digitsValue_lt {digits : List Char} (all : digits.all isDigit = true) :
    digitsValue digits < tenTo digits.length := by
  induction digits using List.reverseRecOn with
  | nil => decide
  | append_singleton digits c ih =>
    rw [List.all_append, Bool.and_eq_true] at all
    have front := ih all.1
    have last := digitValue_lt (c := c) (by simpa using all.2)
    rw [digitsValue_concat, List.length_append, List.length_singleton, tenTo_succ]
    omega

theorem padded_zero {width : Nat} (wide : 0 < width) : padded width 0 = List.replicate width '0' := by
  obtain ⟨n, rfl⟩ := Nat.exists_eq_add_one_of_ne_zero (Nat.ne_of_gt wide)
  exact List.replicate_succ'.symm

theorem length_padded {width n : Nat} (short : (Nat.toDigits 10 n).length ≤ width) :
    (padded width n).length = width := by
  simp only [padded, List.length_append, List.length_replicate]
  omega

/-- One more digit at the end of a number is one more digit in its print. -/
theorem padded_concat {width d : Nat} (number : Nat) (wide : 0 < width) (digit : d < 10) :
    padded (width + 1) (10 * number + d) = padded width number ++ [Nat.digitChar d] := by
  -- Zero is printed as one digit, not as none, and the padding makes up for it.
  by_cases zero : number = 0
  · rw [zero, padded_zero wide, padded, Nat.mul_zero, Nat.zero_add, Nat.toDigits_of_lt_base digit]
    rfl
  · have longer := Nat.toDigits_append_toDigits (b := 10) (by decide) (Nat.pos_of_ne_zero zero) digit
    rw [Nat.toDigits_of_lt_base digit] at longer
    simp [padded, ← longer]

/-- A number printed with as many digits as spelled it is spelled by them. -/
theorem padded_digitsValue {digits : List Char} (all : digits.all isDigit = true)
    (spelled : digits ≠ []) : padded digits.length (digitsValue digits) = digits := by
  induction digits using List.reverseRecOn with
  | nil => exact absurd rfl spelled
  | append_singleton digits c ih =>
    rw [List.all_append, Bool.and_eq_true] at all
    have digit : isDigit c = true := by simpa using all.2
    by_cases single : digits = []
    · rw [single]
      simp [padded, digitsValue, Nat.toDigits_of_lt_base (digitValue_lt digit),
        digitChar_digitValue digit]
    · rw [digitsValue_concat, List.length_append, List.length_singleton,
        padded_concat _ (List.length_pos_iff.2 single) (digitValue_lt digit), ih all.1 single,
        digitChar_digitValue digit]

/-! ## Fields -/

/-- Digits that are read as a number are its print. -/
theorem padded_of_number? {digits : List Char} {n : Nat} (read : number? digits = some n)
    (spelled : digits ≠ []) : padded digits.length n = digits := by
  unfold number? at read
  split at read
  · next all =>
    cases read
    exact padded_digitsValue all spelled
  · cases read

theorem lt_of_number? {digits : List Char} {n : Nat} (read : number? digits = some n) :
    n < tenTo digits.length := by
  unfold number? at read
  split at read
  · next all =>
    cases read
    exact digitsValue_lt all
  · cases read

theorem Date.month_real (date : Date) : 1 ≤ date.month ∧ date.month ≤ 12 := by
  have days : 1 ≤ daysIn date.year date.month := Nat.le_trans date.real.1 date.real.2
  unfold daysIn at days
  split at days <;> omega

/-- The parts of an instant are what it was made of. -/
theorem parts_of_ofParts? {year month day hour minute second nano : Nat} {t : Instant}
    (made : Instant.ofParts? year month day hour minute second nano = some t) :
    (t.date.year = year ∧ t.date.month = month ∧ t.date.day = day) ∧ t.clock.hour = hour ∧
      t.clock.minute = minute ∧ t.clock.second = second ∧ t.clock.nano = nano := by
  simp only [Instant.ofParts?, Date.ofParts?, Clock.ofParts?] at made
  split at made <;> split at made <;> cases made
  simp

/-- What is read as a strict timestamp is the print of its instant. -/
theorem iso_of_readStrict? {text : List Char} {t : Instant} (read : Instant.readStrict? text = some t) :
    t.iso = String.ofList text := by
  unfold Instant.readStrict? at read
  split at read
  · next y1 y2 y3 y4 m1 m2 d1 d2 h1 h2 n1 n2 s1 s2 f1 f2 f3 =>
    simp only [bind, Option.bind_eq_some_iff] at read
    obtain ⟨year, readYear, month, readMonth, day, readDay, hour, readHour, minute, readMinute,
      second, readSecond, milli, readMilli, made⟩ := read
    obtain ⟨⟨inYear, inMonth, inDay⟩, inHour, inMinute, inSecond, inNano⟩ := parts_of_ofParts? made
    have small : year < tenTo 4 := lt_of_number? readYear
    have four : tenTo 4 = 10000 := rfl
    have ofYear : Date.yearChars t.date.year = [y1, y2, y3, y4] := by
      have within : (decide (0 ≤ (year : Int)) && decide ((year : Int) ≤ 9999)) = true := by
        rw [Bool.and_eq_true, decide_eq_true_eq, decide_eq_true_eq]
        omega
      rw [inYear, Date.yearChars, if_pos within]
      exact padded_of_number? readYear (List.cons_ne_nil _ _)
    have ofMonth : padded 2 t.date.month = [m1, m2] := inMonth ▸ padded_of_number? readMonth (List.cons_ne_nil _ _)
    have ofDay : padded 2 t.date.day = [d1, d2] := inDay ▸ padded_of_number? readDay (List.cons_ne_nil _ _)
    have ofHour : padded 2 t.clock.hour = [h1, h2] := inHour ▸ padded_of_number? readHour (List.cons_ne_nil _ _)
    have ofMinute : padded 2 t.clock.minute = [n1, n2] :=
      inMinute ▸ padded_of_number? readMinute (List.cons_ne_nil _ _)
    have ofSecond : padded 2 t.clock.second = [s1, s2] :=
      inSecond ▸ padded_of_number? readSecond (List.cons_ne_nil _ _)
    have ofMilli : padded 3 (t.clock.nano / 1000000) = [f1, f2, f3] := by
      rw [inNano, Nat.mul_div_cancel _ (by decide)]
      exact padded_of_number? readMilli (List.cons_ne_nil _ _)
    simp [Instant.iso, Date.print, Clock.printSeconds, Clock.millis, ofYear, ofMonth, ofDay, ofHour,
      ofMinute, ofSecond, ofMilli]
  · cases read

/-- A strict timestamp is printed without the blanks around it, and else as it was
read. -/
theorem iso_of_readIso? {text : String} {t : Instant} (read : Instant.readIso? text = some t) :
    t.iso = String.ofList (trim text.toList) :=
  iso_of_readStrict? read

end Polyquery.Calendar
