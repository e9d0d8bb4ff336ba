import Polyquery.Decimal.Fixed
import Polyquery.Proofs.Nearness
import Polyquery.Proofs.WrittenNumbers

/-! Fixed-point decimals and the digits they are written with. A decimal in normal form ends in
no zero behind the point, and its digits spell its mantissa. Gathered into 64 bits, digits are
cut off only behind at least eighteen others, so the cut number differs from the decimal by less
than one part in `10 ^ 18`, and not at all if the mantissa fits. -/
namespace Polyquery.Decimal
open Text Sql Calendar

/-! ## Values -/

/-- A number of this sign and size. -/
def signed (negative : Bool) (size : ℚ) : ℚ := if negative then -size else size

@[simp] theorem abs_signed (negative : Bool) (size : ℚ) : |signed negative size| = |size| := by
  cases negative <;> simp [signed]

theorem signed_zero (negative : Bool) : signed negative 0 = 0 := by
  cases negative <;> simp [signed]

namespace Fixed

def size (d : Fixed) : ℚ := d.mantissa / 10 ^ d.scale

/-- The number that the decimal is. -/
def value (d : Fixed) : ℚ := signed d.negative d.size

theorem size_nonneg (d : Fixed) : 0 ≤ d.size := by
  unfold size
  positivity

theorem abs_value (d : Fixed) : |d.value| = d.size := by
  rw [value, abs_signed, abs_of_nonneg d.size_nonneg]

/-! ## Normal form -/

/-- No zero at the end of the fraction, and no sign on a zero. -/
structure Normal (d : Fixed) : Prop where
  ends : d.scale = 0 ∨ d.mantissa % 10 ≠ 0
  sign : d.negative = true → d.mantissa ≠ 0

theorem strip_spec (negative : Bool) {scale mantissa : Nat} (small : mantissa < mantissaLimit)
    (places : scale ≤ scaleLimit) :
    (strip negative scale mantissa small places).negative = negative ∧
      (strip negative scale mantissa small places).size = mantissa / 10 ^ scale ∧
      ((strip negative scale mantissa small places).scale = 0 ∨
        (strip negative scale mantissa small places).mantissa % 10 ≠ 0) := by
  induction scale generalizing mantissa with
  | zero => exact ⟨rfl, rfl, .inl rfl⟩
  | succ scale ih =>
    rw [strip]
    split
    · next zero =>
      obtain ⟨sign, size, ends⟩ := ih (by omega : mantissa / 10 < mantissaLimit) (by omega)
      refine ⟨sign, ?_, ends⟩
      obtain ⟨n, rfl⟩ := Nat.dvd_of_mod_eq_zero zero
      rw [size, Nat.mul_div_cancel_left n (by decide), pow_succ]
      push_cast
      field_simp
    · next digit => exact ⟨rfl, rfl, .inr digit⟩

theorem mantissa_ne_zero_iff (d : Fixed) : d.mantissa ≠ 0 ↔ d.size ≠ 0 := by
  have scale : (10 : ℚ) ^ d.scale ≠ 0 := by positivity
  rw [size, div_ne_zero_iff, Nat.cast_ne_zero]
  exact (and_iff_left scale).symm

theorem size_normalized (d : Fixed) : d.normalized.size = d.size :=
  (strip_spec _ d.small d.places).2.1

theorem negative_normalized {d : Fixed} (nonzero : d.mantissa ≠ 0) :
    d.normalized.negative = d.negative := by
  rw [normalized, (strip_spec _ d.small d.places).1, bne_iff_ne.2 nonzero, Bool.and_true]

theorem value_normalized (d : Fixed) : d.normalized.value = d.value := by
  rw [value, value, size_normalized]
  by_cases zero : d.mantissa = 0
  · have none : d.size = 0 := by rw [size, zero, Nat.cast_zero, zero_div]
    rw [none, signed_zero, signed_zero]
  · rw [negative_normalized zero]

theorem normal_normalized (d : Fixed) : d.normalized.Normal := by
  obtain ⟨sign, size, ends⟩ := strip_spec (d.negative && d.mantissa != 0) d.small d.places
  refine ⟨ends, fun minus => ?_⟩
  rw [normalized, sign, Bool.and_eq_true, bne_iff_ne] at minus
  rw [mantissa_ne_zero_iff, size_normalized]
  exact (mantissa_ne_zero_iff d).1 minus.2

/-- A decimal in normal form has no more digits and places than any way to write it. -/
theorem Normal.least {d : Fixed} (normal : d.Normal) {digits places : Nat}
    (same : d.size = digits / 10 ^ places) : d.mantissa ≤ digits ∧ d.scale ≤ places := by
  have cross : d.mantissa * 10 ^ places = digits * 10 ^ d.scale := by
    rw [size, div_eq_div_iff (by positivity) (by positivity)] at same
    exact_mod_cast same
  have within : d.scale ≤ places := by
    by_contra longer
    obtain ⟨more, extra⟩ : ∃ more, d.scale = places + (more + 1) := ⟨d.scale - places - 1, by omega⟩
    rw [extra, Nat.pow_add, ← Nat.mul_assoc, Nat.mul_right_comm] at cross
    have equal := Nat.eq_of_mul_eq_mul_right (Nat.pow_pos (by decide)) cross
    refine normal.ends.elim (by omega) fun digit => digit ?_
    rw [equal, Nat.pow_succ, ← Nat.mul_assoc]
    exact Nat.mul_mod_left _ _
  refine ⟨?_, within⟩
  obtain ⟨more, extra⟩ := Nat.le.dest within
  rw [← extra, Nat.pow_add, ← Nat.mul_assoc, Nat.mul_right_comm] at cross
  have equal := Nat.eq_of_mul_eq_mul_right (Nat.pow_pos (by decide)) cross
  rw [← equal]
  exact Nat.le_mul_of_pos_right _ (Nat.pow_pos (by decide))

/-- A whole number has one normal form: its digits without places, and its sign. -/
theorem Normal.of_int {d : Fixed} (normal : d.Normal) {n : Int} (same : d.value = n) :
    d.scale = 0 ∧ d.mantissa = n.natAbs ∧ d.negative = decide (n < 0) := by
  have size : d.size = n.natAbs := by
    rw [← abs_value, same, Nat.cast_natAbs]
    push_cast
    rfl
  have whole : d.scale = 0 := by
    have unit : d.size = n.natAbs / 10 ^ 0 := by rw [size, pow_zero, div_one]
    have least := (normal.least unit).2
    omega
  have mantissa : d.mantissa = n.natAbs := by
    rw [Fixed.size, whole, pow_zero, div_one] at size
    exact_mod_cast size
  refine ⟨whole, mantissa, ?_⟩
  rw [value, size, Nat.cast_natAbs, signed] at same
  symm
  cases minus : d.negative with
  | true =>
    have some := normal.sign minus
    rw [minus, if_pos rfl] at same
    have below : -|n| = n := by exact_mod_cast same
    have least := abs_nonneg n
    rw [decide_eq_true_eq]
    omega
  | false =>
    rw [minus, if_neg Bool.false_ne_true] at same
    have above : |n| = n := by exact_mod_cast same
    rw [decide_eq_false_iff_not, not_lt]
    exact abs_eq_self.1 above

/-! ## Digits -/

theorem digitsValue_padded (width n : Nat) : digitsValue (padded width n) = n := by
  rw [padded, digitsValue_append, digitsValue_zeros, digitsValue_toDigits, Nat.zero_mul, Nat.zero_add]

theorem padded_all_isDigit (width n : Nat) : (padded width n).all isDigit = true := by
  rw [padded, List.all_append, zeros_all_isDigit, toDigits_all_isDigit]
  rfl

/-- The digits before and behind the point spell the mantissa, with a digit for each place. -/
structure Spelled (d : Fixed) (whole fraction : List Char) : Prop where
  mantissa : digitsValue (whole ++ fraction) = d.mantissa
  scale : fraction.length = d.scale
  digits : (whole ++ fraction).all isDigit = true
  short : whole.length ≤ 29

theorem spelled_parts (d : Fixed) : d.Spelled d.parts.1 d.parts.2 := by
  have place : 0 < 10 ^ d.scale := Nat.pow_pos (by decide)
  have below : d.mantissa / 10 ^ d.scale < 10 ^ 29 := by
    have limit : mantissaLimit < 10 ^ 29 := by decide
    exact (Nat.div_le_self _ _).trans_lt (d.small.trans limit)
  have length {n width : Nat} (some : 0 < width) (few : n < 10 ^ width) :
      (Nat.toDigits 10 n).length ≤ width := (Nat.length_toDigits_le_iff (by decide) some).2 few
  have short := length (by decide) below
  rw [parts, tenTo_eq]
  by_cases whole : d.scale = 0
  · rw [if_pos whole]
    refine ⟨?_, whole.symm, ?_, short⟩
    · rw [List.append_nil, digitsValue_toDigits, whole, Nat.pow_zero, Nat.div_one]
    · rw [List.append_nil]
      exact toDigits_all_isDigit _
  · rw [if_neg whole]
    have width : (padded d.scale (d.mantissa % 10 ^ d.scale)).length = d.scale :=
      length_padded (length (Nat.pos_of_ne_zero whole) (Nat.mod_lt _ place))
    refine ⟨?_, width, ?_, short⟩
    · rw [digitsValue_append, digitsValue_toDigits, digitsValue_padded, width, Nat.mul_comm]
      exact Nat.div_add_mod _ _
    · rw [List.all_append, toDigits_all_isDigit, padded_all_isDigit]
      rfl

end Fixed

/-! ## Gathered digits -/

theorem digitsValue_cons (c : Char) (rest : List Char) :
    digitsValue (c :: rest) = digitValue c * 10 ^ rest.length + digitsValue rest := by
  have single : digitsValue [c] = digitValue c := by simp [digitsValue]
  rw [← single, ← digitsValue_append]
  rfl

/-- Digits are gathered up to the end, or until the next one would not fit any more. -/
theorem gather_spec (total : Nat) {digits : List Char} (all : digits.all isDigit = true) :
    ∃ taken left, digits = taken ++ left ∧
      gather total digits = (total * 10 ^ taken.length + digitsValue taken, left) ∧
      (left = [] ∨ 2 ^ 64 ≤ (total * 10 ^ taken.length + digitsValue taken) * 10 + 9) := by
  induction digits generalizing total with
  | nil => exact ⟨[], [], rfl, by simp [gather, digitsValue], .inl rfl⟩
  | cons c rest ih =>
    rw [List.all_cons, Bool.and_eq_true] at all
    rw [gather, twoTo_eq]
    split
    · obtain ⟨taken, left, cut, made, full⟩ := ih (total * 10 + digitValue c) all.2
      have longer : (total * 10 + digitValue c) * 10 ^ taken.length + digitsValue taken =
          total * 10 ^ (c :: taken).length + digitsValue (c :: taken) := by
        rw [digitsValue_cons, List.length_cons, Nat.pow_succ]
        ring
      rw [longer] at made full
      exact ⟨c :: taken, left, by rw [cut]; rfl, made, full⟩
    · next tooLong =>
      have digit := digitValue_lt all.1
      refine ⟨[], c :: rest, rfl, by simp [digitsValue], .inr ?_⟩
      simp only [List.length_nil, Nat.pow_zero, Nat.mul_one, digitsValue, List.foldl_nil, Nat.add_zero]
      omega

/-- Digits that fit are gathered to the end. -/
theorem gather_all {total : Nat} {digits : List Char}
    (fits : total * 10 ^ digits.length + digitsValue digits < 2 ^ 64) :
    gather total digits = (total * 10 ^ digits.length + digitsValue digits, []) := by
  induction digits generalizing total with
  | nil => simp [gather, digitsValue]
  | cons c rest ih =>
    have longer : total * 10 ^ (c :: rest).length + digitsValue (c :: rest) =
        (total * 10 + digitValue c) * 10 ^ rest.length + digitsValue rest := by
      rw [digitsValue_cons, List.length_cons, Nat.pow_succ]
      ring
    rw [longer] at fits ⊢
    have next : total * 10 + digitValue c < 2 ^ 64 := by
      refine lt_of_le_of_lt ?_ fits
      exact (Nat.le_mul_of_pos_right _ (Nat.pow_pos (by decide))).trans (Nat.le_add_right _ _)
    rw [gather, twoTo_eq, if_pos next]
    exact ih fits

namespace Scaled

variable {whole fraction : List Char}

/-- Digits that fit are not cut. -/
theorem ofParts_of_fits (negative : Bool) (fits : digitsValue (whole ++ fraction) < 2 ^ 64) :
    (ofParts negative whole fraction 0).significand = digitsValue (whole ++ fraction) ∧
      (ofParts negative whole fraction 0).exponent = -(fraction.length : Int) := by
  rw [digitsValue_append] at fits ⊢
  have front : gather 0 whole = (digitsValue whole, []) := by
    have small : 0 * 10 ^ whole.length + digitsValue whole < 2 ^ 64 := by
      rw [Nat.zero_mul, Nat.zero_add]
      refine lt_of_le_of_lt ?_ fits
      exact (Nat.le_mul_of_pos_right _ (Nat.pow_pos (by decide))).trans (Nat.le_add_right _ _)
    rw [gather_all small, Nat.zero_mul, Nat.zero_add]
  simp [ofParts, front, gather_all fits]

/-- The part that can be cut off. -/
def cutoff : ℚ := 1 / 10 ^ 18

theorem cutoff_pos : 0 < cutoff := by
  rw [cutoff]
  positivity

/-- Digits are left only behind so many that a unit of the last one is less than may be lost. -/
theorem one_le_mul_cutoff {count : Nat} (many : 2 ^ 64 ≤ count * 10 + 9) : 1 ≤ (count : ℚ) * cutoff := by
  rw [cutoff, mul_one_div, one_le_div (by positivity)]
  exact_mod_cast (by omega : 10 ^ 18 ≤ count)

/-- Digits left behind the point. -/
theorem within_of_behind {a b v j n : Nat} (vLt : v < 10 ^ n)
    (rest : v = 0 ∨ 2 ^ 64 ≤ (a * 10 ^ j + b) * 10 + 9) :
    Within (1 + cutoff) (a + b / 10 ^ j) (a + b / 10 ^ j + v / 10 ^ n / 10 ^ j) := by
  have place : (0 : ℚ) < 10 ^ j := by positivity
  have start : (0 : ℚ) ≤ a + b / 10 ^ j := by positivity
  have lost : (0 : ℚ) ≤ v / 10 ^ n / 10 ^ j := by positivity
  have spare := mul_nonneg start cutoff_pos.le
  have small : (v : ℚ) / 10 ^ n / 10 ^ j ≤ (a + b / 10 ^ j) * cutoff := by
    rcases rest with rfl | full
    · rw [Nat.cast_zero, zero_div, zero_div]
      exact spare
    · have shared : (a : ℚ) + b / 10 ^ j = ((a * 10 ^ j + b : Nat) : ℚ) / 10 ^ j := by
        push_cast
        field_simp
      have part : (v : ℚ) / 10 ^ n ≤ 1 := by
        rw [div_le_one (by positivity)]
        exact_mod_cast vLt.le
      rw [shared, div_mul_eq_mul_div]
      exact div_le_div_of_nonneg_right (part.trans (one_le_mul_cutoff full)) place.le
  have least : 1 ≤ 1 + cutoff := by linarith [cutoff_pos]
  refine Within.of_bounds (c := a + b / 10 ^ j) least ⟨le_rfl, ?_⟩ ⟨by linarith, ?_⟩
  · linarith
  · linarith

/-- Digits left before the point, whatever fractions follow. -/
theorem within_of_before {a u m : Nat} {kept whole : ℚ} (uLt : u < 10 ^ m)
    (full : 2 ^ 64 ≤ a * 10 + 9) (keptPart : 0 ≤ kept ∧ kept ≤ 1) (wholePart : 0 ≤ whole ∧ whole ≤ 1) :
    Within (1 + cutoff) ((a + kept) * 10 ^ m) (a * 10 ^ m + u + whole) := by
  have zeros : (0 : ℚ) < 10 ^ m := by positivity
  have share : (10 : ℚ) ^ m ≤ a * 10 ^ m * cutoff := by
    have := mul_le_mul_of_nonneg_right (one_le_mul_cutoff full) zeros.le
    linarith
  have uBound : (u : ℚ) + 1 ≤ 10 ^ m := by exact_mod_cast uLt
  have spare : (0 : ℚ) ≤ u := by positivity
  have least : 1 ≤ 1 + cutoff := by linarith [cutoff_pos]
  refine Within.of_bounds (c := a * 10 ^ m) least ⟨?_, ?_⟩ ⟨?_, ?_⟩
  · have := mul_nonneg keptPart.1 zeros.le
    linarith
  · have := mul_le_mul_of_nonneg_right keptPart.2 zeros.le
    linarith
  · linarith
  · linarith

/-- The number before the cut and behind it, in parts: digits before and behind the point that
are taken, and such that are left. -/
theorem within_of_parts {a b u v : Nat} {m j n : Nat} (uLt : u < 10 ^ m) (bLt : b < 10 ^ j) (vLt : v < 10 ^ n)
    (left : (m = 0 ∧ u = 0) ∨ 2 ^ 64 ≤ a * 10 + 9)
    (rest : v = 0 ∨ 2 ^ 64 ≤ (a * 10 ^ j + b) * 10 + 9) :
    Within (1 + cutoff) ((a + b / 10 ^ j) * 10 ^ m)
      (a * 10 ^ m + u + (b * 10 ^ n + v) / (10 ^ j * 10 ^ n)) := by
  rcases left with ⟨rfl, rfl⟩ | full
  · have behind : ((b : ℚ) * 10 ^ n + v) / (10 ^ j * 10 ^ n) = b / 10 ^ j + v / 10 ^ n / 10 ^ j := by
      field_simp
    rw [behind, pow_zero, mul_one, mul_one, Nat.cast_zero, add_zero, ← add_assoc]
    exact within_of_behind vLt rest
  · have less {size width : Nat} (few : size < 10 ^ width) : (0 : ℚ) ≤ size / 10 ^ width ∧
        (size : ℚ) / 10 ^ width ≤ 1 := by
      refine ⟨by positivity, (div_le_one (by positivity)).2 ?_⟩
      exact_mod_cast few.le
    have joined : b * 10 ^ n + v < 10 ^ (j + n) := by
      rw [Nat.pow_add]
      calc b * 10 ^ n + v < b * 10 ^ n + 10 ^ n := Nat.add_lt_add_left vLt _
        _ = (b + 1) * 10 ^ n := (Nat.succ_mul _ _).symm
        _ ≤ 10 ^ j * 10 ^ n := Nat.mul_le_mul_right _ bLt
    have behind := less joined
    push_cast at behind
    rw [pow_add] at behind
    exact within_of_before uLt full (less bLt) behind

/-- Digits that are cut stand behind so many others that nearly nothing is lost. -/
theorem ofParts_near (negative : Bool) (all : (whole ++ fraction).all isDigit = true) :
    Within (1 + cutoff) (ofParts negative whole fraction 0).value
        (digitsValue (whole ++ fraction) / 10 ^ fraction.length) ∧
      -(fraction.length : Int) ≤ (ofParts negative whole fraction 0).exponent ∧
      (ofParts negative whole fraction 0).exponent ≤ whole.length := by
  rw [List.all_append, Bool.and_eq_true] at all
  obtain ⟨front, left, cutWhole, gathered, fullWhole⟩ := gather_spec 0 all.1
  rw [Nat.zero_mul, Nat.zero_add] at gathered fullWhole
  obtain ⟨behind, rest, cutFraction, more, full⟩ := gather_spec (digitsValue front) all.2
  have significand : (ofParts negative whole fraction 0).significand =
      digitsValue front * 10 ^ behind.length + digitsValue behind := by
    simp [ofParts, gathered, more]
  have exponent : (ofParts negative whole fraction 0).exponent = (left.length : Int) - behind.length := by
    have length : (fraction.length : Int) = behind.length + rest.length := by simp [cutFraction]
    simp only [ofParts, gathered, more]
    omega
  subst cutWhole cutFraction
  simp only [List.all_append, Bool.and_eq_true] at all
  obtain ⟨⟨_, leftDigits⟩, behindDigits, restDigits⟩ := all
  refine ⟨?_, by rw [exponent, List.length_append]; omega, by rw [exponent, List.length_append]; omega⟩
  have near := within_of_parts (digitsValue_lt leftDigits) (digitsValue_lt behindDigits)
    (digitsValue_lt restDigits) (fullWhole.imp (fun none => by rw [none]; exact ⟨rfl, rfl⟩) id)
    (full.imp (fun none => by rw [none]; rfl) id)
  have before : (ofParts negative (front ++ left) (behind ++ rest) 0).value =
      (digitsValue front + digitsValue behind / 10 ^ behind.length) * 10 ^ left.length := by
    rw [value, significand, exponent, zpow_sub₀ (by norm_num), zpow_natCast, zpow_natCast]
    push_cast
    field_simp
  have after : (digitsValue (front ++ left ++ (behind ++ rest)) : ℚ) / 10 ^ (behind ++ rest).length =
      digitsValue front * 10 ^ left.length + digitsValue left +
        (digitsValue behind * 10 ^ rest.length + digitsValue rest) / (10 ^ behind.length * 10 ^ rest.length) := by
    rw [digitsValue_append (front ++ left), digitsValue_append front, digitsValue_append behind,
      List.length_append]
    push_cast
    rw [pow_add]
    field_simp
  rw [before, after]
  exact near

end Scaled

end Polyquery.Decimal
