import Polyquery.Decimal.Numeral
import Polyquery.Decimal.Shortest
import Polyquery.Proofs.Rounding

/-! The shortest digits of a number say which number it is. They are a point of the
interval of what rounds to the number, on a decimal grid; some grid that is looked at has
a point there, because its step is less than half of the distance between two numbers. A
numeral of the same value is rounded to the number again. -/
namespace Polyquery.Decimal

theorem tenTo_eq (n : Nat) : tenTo n = 10 ^ n := rfl

theorem ten_zpow_pos (k : Int) : (0 : ℚ) < 10 ^ k := zpow_pos (by norm_num) k

/-! ## Points and intervals -/

/-- A ratio and a decimal are compared as two natural numbers in the same proportion. -/
theorem against_cast (num : Nat) {den : Nat} (positive : 0 < den) (point : Nat) (k : Int) :
    ∃ scale : ℚ, 0 < scale ∧ ((against num den point k).1 : ℚ) = num / den * scale ∧
      ((against num den point k).2 : ℚ) = point * 10 ^ k * scale := by
  have size : (0 : ℚ) < den := Nat.cast_pos.2 positive
  unfold against
  split
  · next up =>
    obtain ⟨n, rfl⟩ := Int.eq_ofNat_of_zero_le up
    refine ⟨den, size, by field_simp, ?_⟩
    simp [tenTo_eq]
  · next down =>
    obtain ⟨n, rfl⟩ : ∃ n : Nat, k = -(n : Int) := ⟨(-k).toNat, by omega⟩
    refine ⟨den * 10 ^ n, by positivity, ?_, ?_⟩
    · simp only [neg_neg, Int.toNat_natCast, tenTo_eq]
      push_cast
      field_simp
    · simp only [zpow_neg, zpow_natCast]
      push_cast
      field_simp

section
variable (num : Nat) {den : Nat} (positive : 0 < den) (point : Nat) (k : Int)
include positive

theorem against_le : (against num den point k).1 ≤ (against num den point k).2 ↔
    (num : ℚ) / den ≤ point * 10 ^ k := by
  obtain ⟨scale, some, left, right⟩ := against_cast num positive point k
  rw [← Nat.cast_le (α := ℚ), left, right, mul_le_mul_iff_of_pos_right some]

theorem against_ge : (against num den point k).2 ≤ (against num den point k).1 ↔
    (point : ℚ) * 10 ^ k ≤ num / den := by
  obtain ⟨scale, some, left, right⟩ := against_cast num positive point k
  rw [← Nat.cast_le (α := ℚ), left, right, mul_le_mul_iff_of_pos_right some]

end

/-- The quotient of the two is the point of the grid in front of the ratio. -/
theorem floor_against (num : Nat) {den : Nat} (positive : 0 < den) (k : Int) :
    (((against num den 1 k).1 / (against num den 1 k).2 : Nat) : ℚ) * 10 ^ k ≤ num / den ∧
      (num : ℚ) / den < ((against num den 1 k).1 / (against num den 1 k).2 + 1 : Nat) * 10 ^ k := by
  obtain ⟨scale, some, value, one⟩ := against_cast num positive 1 k
  generalize against num den 1 k = pair at value one
  rw [Nat.cast_one, one_mul] at one
  have onePos : 0 < pair.2 := by
    have cast : (0 : ℚ) < pair.2 := one ▸ mul_pos (ten_zpow_pos k) some
    exact_mod_cast cast
  constructor
  · have cut : ((pair.1 / pair.2 * pair.2 : Nat) : ℚ) ≤ pair.1 := by
      exact_mod_cast Nat.div_mul_le_self pair.1 pair.2
    rwa [Nat.cast_mul, value, one, ← mul_assoc, mul_le_mul_iff_of_pos_right some] at cut
  · have cut : (pair.1 : ℚ) < ((pair.1 / pair.2 + 1) * pair.2 : Nat) := by
      exact_mod_cast (Nat.div_lt_iff_lt_mul onePos).1 (Nat.lt_succ_self (pair.1 / pair.2))
    rwa [Nat.cast_mul, value, one, ← mul_assoc, mul_lt_mul_iff_of_pos_right some] at cut

/-- An end of the interval as a ratio. -/
theorem end_ratio (n : Nat) (unit : Int) :
    ((scaledRatio n 1 (-unit)).1 : ℚ) / (scaledRatio n 1 (-unit)).2 = n * 2 ^ unit := by
  rw [ratio_scaled, zpow_neg, div_inv_eq_mul, Nat.cast_one, div_one]

theorem end_pos (n : Nat) (unit : Int) : 0 < (scaledRatio n 1 (-unit)).2 := scaledRatio_pos n (by decide) _

/-- Whether a point is inside: between the ends, and no end unless they count. -/
theorem Rounding.contains_iff (r : Rounding) (point : Nat) (k : Int) :
    r.contains point k = true ↔
      ((r.low : ℚ) * 2 ^ r.unit ≤ point * 10 ^ k ∧ (point : ℚ) * 10 ^ k ≤ r.high * 2 ^ r.unit) ∧
      (r.closed = false → (r.low : ℚ) * 2 ^ r.unit ≠ point * 10 ^ k ∧
        (point : ℚ) * 10 ^ k ≠ r.high * 2 ^ r.unit) := by
  have low := against_le (scaledRatio r.low 1 (-r.unit)).1 (end_pos r.low r.unit) point k
  have below := against_ge (scaledRatio r.low 1 (-r.unit)).1 (end_pos r.low r.unit) point k
  have high := against_ge (scaledRatio r.high 1 (-r.unit)).1 (end_pos r.high r.unit) point k
  have above := against_le (scaledRatio r.high 1 (-r.unit)).1 (end_pos r.high r.unit) point k
  rw [end_ratio] at low below high above
  cases closed : r.closed with
  | true =>
    simp only [contains, closed, ↓reduceIte, Bool.and_eq_true, decide_eq_true_eq]
    rw [low, high]
    simp
  | false =>
    simp only [contains, closed, Bool.false_eq_true, ↓reduceIte, Bool.and_eq_true, decide_eq_true_eq,
      ← Nat.not_le]
    rw [below, above, not_le, not_le, lt_iff_le_and_ne, lt_iff_le_and_ne]
    tauto

/-! ## Grids -/

namespace Rounding

variable {r : Rounding} {tie : Tie} {k : Int}

/-- What is found on a grid is inside. -/
theorem contains_of_onGrid {point : Nat} (found : r.onGrid tie k = some point) :
    r.contains point k = true := by
  simp only [onGrid] at found
  generalize against (scaledRatio r.middle 1 (-r.unit)).1 (scaledRatio r.middle 1 (-r.unit)).2 1 k =
    pair at found
  generalize pair.1 / pair.2 = floor at found
  split at found
  · next low high =>
    cases found
    split
    · exact (Bool.and_eq_true_iff.1 low).1
    · exact high
  · next low _ =>
    cases found
    exact (Bool.and_eq_true_iff.1 low).1
  · next high =>
    cases found
    exact high
  · cases found

/-- A grid has a point inside if one step from the number does not lead outside. -/
theorem onGrid_of_fine (below : r.low < r.middle)
    (fine : (r.middle : ℚ) * 2 ^ r.unit + 10 ^ k < r.high * 2 ^ r.unit) :
    (r.onGrid tie k).isSome := by
  obtain ⟨floor, ceiling⟩ :=
    floor_against (scaledRatio r.middle 1 (-r.unit)).1 (end_pos r.middle r.unit) k
  rw [end_ratio] at floor ceiling
  simp only [onGrid]
  generalize against (scaledRatio r.middle 1 (-r.unit)).1 (scaledRatio r.middle 1 (-r.unit)).2 1 k =
    pair at floor ceiling ⊢
  generalize pair.1 / pair.2 = n at floor ceiling ⊢
  -- The next point above the number is at most a step away.
  have inside : r.contains (n + 1) k = true := by
    have wide : (r.low : ℚ) * 2 ^ r.unit < r.middle * 2 ^ r.unit :=
      mul_lt_mul_of_pos_right (by exact_mod_cast below) (two_zpow_pos r.unit)
    have next : ((n + 1 : Nat) : ℚ) * 10 ^ k = n * 10 ^ k + 10 ^ k := by
      push_cast
      ring
    have low : (r.low : ℚ) * 2 ^ r.unit < (n + 1 : Nat) * 10 ^ k := wide.trans ceiling
    have high : ((n + 1 : Nat) : ℚ) * 10 ^ k < r.high * 2 ^ r.unit := by linarith
    rw [contains_iff]
    exact ⟨⟨low.le, high.le⟩, fun _ => ⟨low.ne, high.ne⟩⟩
  rw [inside]
  cases r.contains n k && n != 0 <;> rfl

/-- A search whose last grid has a point finds one. -/
theorem search_contains {tries : Nat} (last : (r.onGrid tie (k - tries)).isSome) :
    r.contains (r.search tie tries k).digits (r.search tie tries k).exponent = true := by
  induction tries generalizing k with
  | zero =>
    obtain ⟨point, found⟩ := Option.isSome_iff_exists.1 last
    rw [Nat.cast_zero, sub_zero] at found
    simpa [search, found] using contains_of_onGrid found
  | succ tries ih =>
    rw [search]
    cases found : r.onGrid tie k with
    | some point => exact contains_of_onGrid found
    | none =>
      apply ih
      rwa [sub_sub, add_comm, ← Nat.cast_succ]

end Rounding

/-! ## Powers of ten and of two -/

/-- Ten is less than `2 ^ (196 / 59)` and greater than `2 ^ (93 / 28)`. -/
theorem ten_zpow_lt_two_zpow {a b : Int} (up : 196 * a < 59 * b) (down : 93 * a < 28 * b) :
    (10 : ℚ) ^ a < 2 ^ b := by
  have tower (base : ℚ) (n : Nat) (e : Int) : (base ^ e) ^ n = (base ^ n) ^ e := by
    rw [← zpow_natCast, ← zpow_natCast, zpow_comm]
  rcases le_or_gt 0 a with positive | negative
  · refine lt_of_pow_lt_pow_left₀ 59 (two_zpow_pos b).le ?_
    calc ((10 : ℚ) ^ a) ^ 59 = (10 ^ 59) ^ a := tower 10 59 a
      _ ≤ (2 ^ 196) ^ a := zpow_le_zpow_left₀ positive (by norm_num) (by norm_num)
      _ = 2 ^ (196 * a) := by rw [zpow_mul]; norm_cast
      _ < 2 ^ (59 * b) := zpow_lt_zpow_right₀ (by norm_num) up
      _ = (2 ^ b) ^ 59 := by rw [tower, zpow_mul]; norm_cast
  · refine lt_of_pow_lt_pow_left₀ 28 (two_zpow_pos b).le ?_
    calc ((10 : ℚ) ^ a) ^ 28 = (10 ^ 28) ^ a := tower 10 28 a
      _ ≤ (2 ^ 93) ^ a := by
        obtain ⟨n, rfl⟩ : ∃ n : Nat, a = -(n : Int) := ⟨a.natAbs, by omega⟩
        rw [zpow_neg, zpow_neg, zpow_natCast, zpow_natCast]
        exact inv_anti₀ (by positivity) (pow_le_pow_left₀ (by norm_num) (by norm_num) n)
      _ = 2 ^ (93 * a) := by rw [zpow_mul]; norm_cast
      _ < 2 ^ (28 * b) := zpow_lt_zpow_right₀ (by norm_num) down
      _ = (2 ^ b) ^ 28 := by rw [tower, zpow_mul]; norm_cast

/-- The order of a ratio is estimated from its logarithms, at most one too high. -/
theorem decimalOrder_le (num den : Nat) :
    decimalOrder num den ≤ ((Nat.log2 num : Int) - Nat.log2 den) * 30103 / 100000 + 1 := by
  simp only [decimalOrder]
  split
  · exact le_rfl
  · split <;> omega

/-! ## Values -/

/-- The number that the digits spell. -/
def Shortest.value (s : Shortest) : ℚ := s.digits * 10 ^ s.exponent

theorem Shortest.value_trimmed (bound : Nat) (s : Shortest) : (s.trimmed bound).value = s.value := by
  induction bound generalizing s with
  | zero => rfl
  | succ bound ih =>
    rw [trimmed]
    split
    · next zeros =>
      rw [Bool.and_eq_true, beq_iff_eq] at zeros
      obtain ⟨n, whole⟩ := Nat.dvd_of_mod_eq_zero zeros.2
      rw [ih, value, value, whole, Nat.mul_div_cancel_left n (by decide), zpow_add_one₀ (by norm_num)]
      push_cast
      ring
    · rfl

namespace Double

variable {x : Double}

/-! The number and the ends of its interval, in units of the grid of the number. -/

theorem unit_eq (x : Double) (n : Nat) :
    (n : ℚ) * 2 ^ x.rounding.unit = n / 4 * 2 ^ x.magnitude.2 := by
  have unit : x.rounding.unit = x.magnitude.2 - 2 := rfl
  rw [unit, zpow_sub₀ (by norm_num)]
  norm_num
  ring

theorem middle_end (x : Double) :
    (x.rounding.middle : ℚ) * 2 ^ x.rounding.unit = x.magnitude.1 * 2 ^ x.magnitude.2 := by
  have middle : x.rounding.middle = 4 * x.magnitude.1 := rfl
  rw [unit_eq, middle]
  push_cast
  ring

theorem high_end (x : Double) :
    (x.rounding.high : ℚ) * 2 ^ x.rounding.unit = (x.magnitude.1 + 1 / 2) * 2 ^ x.magnitude.2 := by
  have high : x.rounding.high = 4 * x.magnitude.1 + 2 := rfl
  rw [unit_eq, high]
  push_cast
  ring

/-- Half of a unit below the number, or a quarter just above a power of two. -/
theorem exists_low_end (nonzero : x.magnitude.1 ≠ 0) :
    ∃ width : ℚ, (x.rounding.low : ℚ) * 2 ^ x.rounding.unit =
        (x.magnitude.1 - width) * 2 ^ x.magnitude.2 ∧ width ≤ 1 / 2 ∧
      (x.magnitude.1 = 2 ^ 52 → -1074 < x.magnitude.2 → width = 1 / 4) ∧
      (width = 1 / 2 ∨ width = 1 / 4 ∧ x.magnitude.1 = 2 ^ 52 ∧ -1074 < x.magnitude.2) := by
  have narrows : 1 < x.exponentField ↔ -1074 < x.magnitude.2 := by
    unfold magnitude
    split <;> omega
  have low : x.rounding.low = 4 * x.magnitude.1 -
      if x.magnitude.1 == twoTo 52 && decide (1 < x.exponentField) then 1 else 2 := rfl
  simp only [narrows] at low
  rw [unit_eq, low]
  split
  · next power =>
    rw [Bool.and_eq_true, beq_iff_eq, decide_eq_true_eq] at power
    refine ⟨1 / 4, ?_, by norm_num, fun _ _ => rfl, .inr ⟨rfl, power⟩⟩
    rw [Nat.cast_sub (by omega)]
    push_cast
    ring
  · next wide =>
    refine ⟨1 / 2, ?_, le_rfl, fun power fine => absurd ?_ wide, .inl rfl⟩
    · rw [Nat.cast_sub (by omega)]
      push_cast
      ring
    · simp [power, twoTo_eq, fine]

theorem low_lt_middle (nonzero : x.magnitude.1 ≠ 0) : x.rounding.low < x.rounding.middle := by
  simp only [rounding]
  split <;> omega

/-- A point inside is neither too small nor too great. -/
theorem bounds_of_contains (finite : x.isFinite = true) (nonzero : x.magnitude.1 ≠ 0) {point : Nat}
    {k : Int} (inside : x.rounding.contains point k = true) :
    (2 : ℚ) ^ (-1076 : Int) ≤ point * 10 ^ k ∧ (point : ℚ) * 10 ^ k ≤ 2 ^ (1025 : Int) := by
  obtain ⟨small, least, greatest, _⟩ := magnitude_fits finite
  obtain ⟨width, lowEnd, half, _⟩ := exists_low_end nonzero
  obtain ⟨⟨low, high⟩, _⟩ := (Rounding.contains_iff ..).1 inside
  rw [lowEnd] at low
  rw [high_end] at high
  generalize x.magnitude = parts at *
  obtain ⟨m, q⟩ := parts
  dsimp only at *
  have one : (1 : ℚ) ≤ m := Nat.one_le_cast.2 (Nat.one_le_iff_ne_zero.2 nonzero)
  have most : (m : ℚ) + 1 / 2 ≤ 2 ^ (54 : Int) := by
    have bits : (m : ℚ) < 2 ^ 53 := by exact_mod_cast small
    have power : (2 : ℚ) ^ (54 : Int) = 2 * 2 ^ 53 := by norm_num
    linarith
  have step := two_zpow_pos q
  constructor
  · calc (2 : ℚ) ^ (-1076 : Int) ≤ 2 ^ (q - 1) := zpow_le_zpow_right₀ (by norm_num) (by omega)
      _ = 1 / 2 * 2 ^ q := by
          rw [zpow_sub_one₀ (by norm_num)]
          ring
      _ ≤ (m - width) * 2 ^ q := mul_le_mul_of_nonneg_right (by linarith) step.le
      _ ≤ point * 10 ^ k := low
  · calc (point : ℚ) * 10 ^ k ≤ (m + 1 / 2) * 2 ^ q := high
      _ ≤ 2 ^ (54 : Int) * 2 ^ q := mul_le_mul_of_nonneg_right most step.le
      _ = 2 ^ (54 + q) := by rw [← zpow_add₀ (by norm_num)]
      _ ≤ 2 ^ (1025 : Int) := zpow_le_zpow_right₀ (by norm_num) (by omega)

/-- A point inside is rounded to the number. -/
theorem round_of_contains (finite : x.isFinite = true) (nonzero : x.magnitude.1 ≠ 0) {point : Nat}
    {k : Int} (inside : x.rounding.contains point k = true) {num den : Nat} (positive : 0 < den)
    (same : (num : ℚ) / den = point * 10 ^ k) : binary64.round num den = some x.magnitude := by
  have fits := magnitude_fits finite
  have even : x.rounding.closed = (x.magnitude.1 % 2 == 0) := rfl
  obtain ⟨width, lowEnd, half, narrow, _⟩ := exists_low_end nonzero
  rw [Rounding.contains_iff, ← same, lowEnd, high_end, even] at inside
  generalize x.magnitude = parts at fits nonzero inside narrow ⊢
  obtain ⟨m, q⟩ := parts
  dsimp only at fits nonzero inside narrow
  have step := two_zpow_pos q
  obtain ⟨t, value⟩ : ∃ t : ℚ, (num : ℚ) / den = t * 2 ^ q := ⟨num / den / 2 ^ q, by field_simp⟩
  have back : (num : ℚ) / den / 2 ^ q = t := by rw [value, mul_div_cancel_right₀ _ step.ne']
  obtain ⟨⟨low, high⟩, strict⟩ := inside
  rw [value] at strict
  rw [value, mul_le_mul_iff_of_pos_right step] at low high
  refine round_of_near positive nonzero fits ?_ ?_ ?_ <;> rw [back]
  · exact abs_le.2 ⟨by linarith, by linarith⟩
  · intro edge
    by_contra odd
    obtain ⟨notLow, notHigh⟩ := strict (by simpa using odd)
    rcases (abs_eq (by norm_num)).1 edge with above | below
    · exact notHigh (by rw [sub_eq_iff_eq_add'.1 above])
    · have least : t = m - width := by linarith
      exact notLow (by rw [least])
  · intro power fine
    rw [← narrow power fine]
    exact low

/-- The logarithms of a ratio of the size of a number are within the range of exponents. -/
theorem log2_range (finite : x.isFinite = true) (nonzero : x.magnitude.1 ≠ 0) {num den : Nat}
    (positive : 0 < den) (same : (num : ℚ) / den = x.magnitude.1 * 2 ^ x.magnitude.2) :
    num ≠ 0 ∧ -1075 < (Nat.log2 num : Int) - Nat.log2 den ∧
      (Nat.log2 num : Int) - Nat.log2 den < x.magnitude.2 + 54 := by
  obtain ⟨small, least, greatest, _⟩ := magnitude_fits finite
  generalize x.magnitude = parts at *
  obtain ⟨m, q⟩ := parts
  dsimp only at *
  have one : (1 : ℚ) ≤ m := Nat.one_le_cast.2 (Nat.one_le_iff_ne_zero.2 nonzero)
  have most : (m : ℚ) < 2 ^ 53 := by exact_mod_cast small
  have step := two_zpow_pos q
  have some : num ≠ 0 := by
    rintro rfl
    rw [Nat.cast_zero, zero_div] at same
    have value : (0 : ℚ) < m * 2 ^ q := by positivity
    exact value.ne same
  obtain ⟨low, high⟩ := ratio_bounds some positive
  generalize (Nat.log2 num : Int) - Nat.log2 den = l at low high
  refine ⟨some, ?_, ?_⟩
  · have power : (2 : ℚ) ^ q < 2 ^ (l + 1) := by
      calc (2 : ℚ) ^ q ≤ m * 2 ^ q := by linarith [mul_le_mul_of_nonneg_right one step.le]
        _ < 2 ^ (l + 1) := same ▸ high
    have := (zpow_lt_zpow_iff_right₀ (by norm_num)).1 power
    omega
  · have power : (2 : ℚ) ^ (l - 1) < 2 ^ (q + 53) := by
      calc (2 : ℚ) ^ (l - 1) < m * 2 ^ q := same ▸ low
        _ ≤ 2 ^ 53 * 2 ^ q := mul_le_mul_of_nonneg_right most.le step.le
        _ = 2 ^ (q + 53) := by
            rw [zpow_add₀ (by norm_num), mul_comm]
            norm_num
    have := (zpow_lt_zpow_iff_right₀ (by norm_num)).1 power
    omega

/-- The step of the last grid that is looked at is small enough. -/
theorem fine_grid (finite : x.isFinite = true) (nonzero : x.magnitude.1 ≠ 0) {num den : Nat}
    (positive : 0 < den) (same : (num : ℚ) / den = x.magnitude.1 * 2 ^ x.magnitude.2) :
    (10 : ℚ) ^ (decimalOrder num den - 18) < 2 ^ (x.magnitude.2 - 1) := by
  obtain ⟨_, least, greatest, _⟩ := magnitude_fits finite
  obtain ⟨_, lowest, above⟩ := log2_range finite nonzero positive same
  have order := decimalOrder_le num den
  exact ten_zpow_lt_two_zpow (by omega) (by omega)

end Double

/-! ## Reading back -/

namespace Double

variable {x : Double}

/-- The shortest digits of a number are within the range of binary64, and every ratio of
their value is rounded to the number. -/
theorem round_shortest (finite : x.isFinite = true) (nonzero : x.magnitude.1 ≠ 0) (tie : Tie) :
    (2 : ℚ) ^ (-1076 : Int) ≤ (x.shortest tie).value ∧ (x.shortest tie).value ≤ 2 ^ (1025 : Int) ∧
      ∀ {num den : Nat}, 0 < den → (num : ℚ) / den = (x.shortest tie).value →
        binary64.round num den = some x.magnitude := by
  have middle := end_ratio x.rounding.middle x.rounding.unit
  have fine := fine_grid finite nonzero (end_pos x.rounding.middle x.rounding.unit)
    (middle.trans (middle_end x))
  rw [shortest]
  dsimp only
  generalize decimalOrder _ _ = order at fine ⊢
  have last : (x.rounding.onGrid tie (order - (18 : Nat))).isSome := by
    refine Rounding.onGrid_of_fine (low_lt_middle nonzero) ?_
    rw [middle_end, high_end, add_mul]
    rw [zpow_sub_one₀ (by norm_num)] at fine
    push_cast
    linarith
  have inside := Rounding.search_contains last
  rw [Shortest.value_trimmed]
  generalize x.rounding.search tie 18 order = s at inside
  obtain ⟨low, high⟩ := bounds_of_contains finite nonzero inside
  exact ⟨low, high, fun size same => round_of_contains finite nonzero inside size same⟩

end Double

/-! ## Numerals -/

namespace Numeral

/-- The magnitude that a numeral spells. -/
def value (n : Numeral) : ℚ := n.digits * 10 ^ n.exponent

/-- The power of ten is not cut back within the range of binary64. -/
theorem ratio_value {n : Numeral} (low : (2 : ℚ) ^ (-1076 : Int) ≤ n.value)
    (high : n.value ≤ 2 ^ (1025 : Int)) :
    0 < n.ratio.2 ∧ (n.ratio.1 : ℚ) / n.ratio.2 = n.value := by
  unfold value at *
  obtain ⟨negative, digits, exponent⟩ := n
  dsimp only at *
  have some : digits ≠ 0 := by
    rintro rfl
    rw [Nat.cast_zero, zero_mul] at low
    exact absurd (two_zpow_pos _) low.not_gt
  have one : (1 : ℚ) ≤ digits := Nat.one_le_cast.2 (Nat.one_le_iff_ne_zero.2 some)
  simp only [ratio, if_neg some]
  split_ifs with huge tiny up
  · have small : (10 : ℚ) ^ (-exponent) < 2 ^ (-1025 : Int) :=
      ten_zpow_lt_two_zpow (by omega) (by omega)
    have less : (digits : ℚ) < 1 := by
      calc (digits : ℚ) = digits * 10 ^ exponent * 10 ^ (-exponent) := by
            rw [mul_assoc, ← zpow_add₀ (by norm_num), add_neg_cancel, zpow_zero, mul_one]
        _ ≤ 2 ^ (1025 : Int) * 10 ^ (-exponent) := mul_le_mul_of_nonneg_right high (ten_zpow_pos _).le
        _ < 2 ^ (1025 : Int) * 2 ^ (-1025 : Int) := mul_lt_mul_of_pos_left small (two_zpow_pos _)
        _ = 1 := by rw [← zpow_add₀ (by norm_num), add_neg_cancel, zpow_zero]
    exact absurd one less.not_ge
  · have bits := (log2_bounds some).2
    generalize Nat.log2 digits = l at tiny bits
    have small : (10 : ℚ) ^ exponent < 2 ^ (-1076 - ((l : Int) + 1)) :=
      ten_zpow_lt_two_zpow (by omega) (by omega)
    have less : (digits : ℚ) * 10 ^ exponent < 2 ^ (-1076 : Int) := by
      calc (digits : ℚ) * 10 ^ exponent < 2 ^ ((l : Int) + 1) * 2 ^ (-1076 - ((l : Int) + 1)) :=
            mul_lt_mul'' bits small (Nat.cast_nonneg _) (ten_zpow_pos _).le
        _ = 2 ^ (-1076 : Int) := by rw [← zpow_add₀ (by norm_num), add_sub_cancel]
    exact absurd low less.not_ge
  · obtain ⟨k, rfl⟩ := Int.eq_ofNat_of_zero_le up
    simp [tenTo_eq]
  · obtain ⟨k, rfl⟩ : ∃ k : Nat, exponent = -(k : Int) := ⟨exponent.natAbs, by omega⟩
    simp [tenTo_eq, div_eq_mul_inv]

end Numeral

/-- A numeral that spells the shortest digits of a number is read as the number. -/
theorem Double.toDouble?_of_shortest {x : Double} (finite : x.isFinite = true)
    (nonzero : x.magnitude.1 ≠ 0) {tie : Tie} {n : Numeral} (sign : n.negative = x.negative)
    (same : n.value = (x.shortest tie).value) : n.toDouble? = some x := by
  obtain ⟨low, high, rounds⟩ := round_shortest finite nonzero tie
  rw [← same] at low high rounds
  obtain ⟨positive, ratio⟩ := Numeral.ratio_value low high
  have rounded : Double.ofRatio? n.negative n.ratio.1 n.ratio.2 =
      some (ofMagnitude x.negative x.magnitude.1 x.magnitude.2) := by
    simp only [ofRatio?, rounds positive ratio, sign, Option.map_some]
  exact rounded.trans (congrArg some (ofMagnitude_self x))

/-- A numeral without digits other than zero is read as a zero. -/
theorem Double.toDouble?_of_zero {x : Double} (zero : x.magnitude.1 = 0) {n : Numeral}
    (sign : n.negative = x.negative) (same : n.digits = 0) : n.toDouble? = some x := by
  have none : n.ratio = (0, 1) := if_pos same
  have fields (q : Int) : ofMagnitude x.negative 0 q = ofFields x.negative 0 0 :=
    if_pos (by rw [twoTo_eq]; decide)
  have rounded : binary64.round 0 1 = some (0, -1074) := if_pos rfl
  have self := ofMagnitude_self x
  rw [zero, fields] at self
  simp only [Numeral.toDouble?, none, ofRatio?, rounded, Option.map_some, sign, fields, self]

end Polyquery.Decimal
