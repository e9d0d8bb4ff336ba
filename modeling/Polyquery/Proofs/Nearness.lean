import Polyquery.Decimal.Scaled
import Polyquery.Proofs.DigitCounts

/-! How near a number is to what was rounded to it. A rounded ratio lies in the interval of its
number, so the two differ by a factor of at most one and a unit of the last bit, and they are
equal if the ratio has no more bits than a number has. The factors of several steps are
multiplied. So a decimal that is cut to 64 bits, rounded and then multiplied or divided by a
power of ten stays near its value, and is rounded only once if it and the power are short. -/
namespace Polyquery.Decimal

/-! ## Factors -/

/-- Two numbers that differ by at most this factor, whichever is greater. -/
def Within (factor first second : ℚ) : Prop := first ≤ second * factor ∧ second ≤ first * factor

namespace Within

variable {f g a b c d : ℚ}

theorem symm (near : Within f a b) : Within f b a := ⟨near.2, near.1⟩

theorem trans (one : 0 ≤ f) (other : 0 ≤ g) (near : Within f a b) (more : Within g b c) : Within (f * g) a c := by
  constructor
  · calc a ≤ b * f := near.1
      _ ≤ c * g * f := mul_le_mul_of_nonneg_right more.1 one
      _ = c * (f * g) := by ring
  · calc c ≤ b * g := more.2
      _ ≤ a * f * g := mul_le_mul_of_nonneg_right near.2 other
      _ = a * (f * g) := by ring

theorem mul (one : 0 ≤ f) (positive : 0 ≤ a ∧ 0 ≤ b ∧ 0 ≤ c ∧ 0 ≤ d) (near : Within f a b)
    (more : Within g c d) :
    Within (f * g) (a * c) (b * d) := by
  obtain ⟨a0, b0, c0, d0⟩ := positive
  constructor
  · calc a * c ≤ b * f * (d * g) := mul_le_mul near.1 more.1 c0 (mul_nonneg b0 one)
      _ = b * d * (f * g) := by ring
  · calc b * d ≤ a * f * (c * g) := mul_le_mul near.2 more.2 d0 (mul_nonneg a0 one)
      _ = a * c * (f * g) := by ring

theorem div (one : 0 ≤ f) (positive : 0 ≤ a ∧ 0 ≤ b ∧ 0 < c ∧ 0 < d) (near : Within f a b) (more : Within g c d) :
    Within (f * g) (a / c) (b / d) := by
  obtain ⟨a0, b0, c0, d0⟩ := positive
  constructor
  · rw [div_mul_eq_mul_div, div_le_div_iff₀ c0 d0]
    calc a * d ≤ b * f * (c * g) := mul_le_mul near.1 more.2 d0.le (mul_nonneg b0 one)
      _ = b * (f * g) * c := by ring
  · rw [div_mul_eq_mul_div, div_le_div_iff₀ d0 c0]
    calc b * c ≤ a * f * (d * g) := mul_le_mul near.2 more.1 c0.le (mul_nonneg a0 one)
      _ = a * (f * g) * d := by ring

/-- What lies between a number and its multiple by the factor. -/
theorem of_bounds (least : 1 ≤ f) (first : c ≤ a ∧ a ≤ c * f)
    (second : c ≤ b ∧ b ≤ c * f) : Within f a b := by
  have scale : 0 ≤ f := by linarith
  exact ⟨first.2.trans (mul_le_mul_of_nonneg_right second.1 scale),
    second.2.trans (mul_le_mul_of_nonneg_right first.1 scale)⟩

/-- The difference is at most the part by which the factor exceeds one. -/
theorem abs_sub_le (positive : 0 ≤ b) (least : 1 ≤ f) (near : Within f a b) :
    |a - b| ≤ b * (f - 1) := by
  obtain ⟨most, more⟩ := near
  refine abs_le.2 ⟨?_, by linarith⟩
  -- From below the part would be taken of the other number, which is smaller then.
  by_cases less : a ≤ b
  · have := mul_le_mul_of_nonneg_right less (by linarith : 0 ≤ f - 1)
    linarith
  · have := mul_nonneg positive (by linarith : 0 ≤ f - 1)
    linarith

end Within

/-! ## Rounded ratios -/

/-- The nearest natural number is at most a half away, and even on a tie. -/
theorem nearestEven_near (num : Nat) {den : Nat} (positive : 0 < den) :
    |(num : ℚ) / den - nearestEven num den| ≤ 1 / 2 ∧
      (|(num : ℚ) / den - nearestEven num den| = 1 / 2 → nearestEven num den % 2 = 0) := by
  have size : (0 : ℚ) < den := Nat.cast_pos.2 positive
  have whole : (num : ℚ) = den * (num / den : Nat) + (num % den : Nat) := by
    exact_mod_cast (Nat.div_add_mod num den).symm
  have ratio : (num : ℚ) / den = (num / den : Nat) + (num % den : Nat) / den := by
    rw [whole]
    field_simp
  have part : (0 : ℚ) ≤ (num % den : Nat) / den := by positivity
  have most : ((num % den : Nat) : ℚ) / den < 1 := by
    rw [div_lt_one size]
    exact_mod_cast Nat.mod_lt _ positive
  rw [ratio]
  simp only [nearestEven]
  split_ifs with less more even
  · have below : ((num % den : Nat) : ℚ) / den < 1 / 2 := by
      rw [div_lt_div_iff₀ size (by norm_num)]
      exact_mod_cast (by omega : num % den * 2 < 1 * den)
    rw [add_sub_cancel_left, abs_of_nonneg part]
    exact ⟨below.le, fun tie => absurd tie below.ne⟩
  · have above : 1 / 2 < ((num % den : Nat) : ℚ) / den := by
      rw [div_lt_div_iff₀ (by norm_num) size]
      exact_mod_cast (by omega : 1 * den < num % den * 2)
    push_cast
    rw [add_sub_add_left_eq_sub, abs_of_nonpos (by linarith)]
    exact ⟨by linarith, fun tie => by linarith⟩
  all_goals
    have half : ((num % den : Nat) : ℚ) / den = 1 / 2 := by
      rw [div_eq_div_iff size.ne' (by norm_num)]
      exact_mod_cast (by omega : num % den * 2 = 1 * den)
    rw [half]
  · rw [add_sub_cancel_left]
    exact ⟨by norm_num, fun _ => even⟩
  · push_cast
    rw [add_sub_add_left_eq_sub]
    exact ⟨by norm_num [abs_of_nonpos], fun _ => by omega⟩

/-- A ratio is at most half of a unit away from what it is rounded to, on a tie that is even,
and below a power of two it is half as near. -/
theorem near_of_round {num den m : Nat} {q : Int} (nonzero : num ≠ 0) (positive : 0 < den)
    (rounded : binary64.round num den = some (m, q)) :
    |(num : ℚ) / den / 2 ^ q - m| ≤ 1 / 2 ∧ (|(num : ℚ) / den / 2 ^ q - m| = 1 / 2 → m % 2 = 0) ∧
      (m = 2 ^ 52 → -1074 < q → (m : ℚ) - 1 / 4 ≤ num / den / 2 ^ q) := by
  obtain ⟨grid, n, d, size, ratio, below, _, whole, settled⟩ := exists_grid nonzero positive
  obtain ⟨near, tie⟩ := nearestEven_near n size
  have bits : twoTo binary64.precision = 2 ^ 53 := twoTo_eq 53
  have greatest : binary64.greatest = 971 := rfl
  rw [settled] at rounded
  simp only [Layout.settle, bits, greatest] at rounded
  split at rounded
  · split at rounded
    · cases rounded
    · cases rounded
      rw [← ratio]
      refine ⟨near, tie, fun power fine => ?_⟩
      have above := whole.resolve_left fine.ne'
      rw [power]
      push_cast
      linarith
  · next carried =>
    split at rounded
    · cases rounded
    · cases rounded
      -- Rounding up to a power of two leads to the next grid.
      obtain ⟨_, most⟩ := abs_le.1 near
      have up : nearestEven n d = 2 ^ 53 := by
        have least : nearestEven n d ≤ 2 ^ 53 := by
          refine nearestEven_le size ?_
          rw [div_lt_iff₀ (Nat.cast_pos.2 size)] at below
          exact_mod_cast below
        omega
      have half : (num : ℚ) / den / 2 ^ (grid + 1) = n / d / 2 := by
        rw [ratio, zpow_add_one₀ (by norm_num), div_div _ _ (2 : ℚ)]
      obtain ⟨least, _⟩ := abs_le.1 near
      rw [up] at least
      push_cast at least
      rw [half, up]
      norm_num
      refine ⟨abs_le.2 ⟨by linarith, by linarith⟩, fun _ => by linarith⟩

namespace Double

variable {x : Double}

/-- A ratio that is rounded to a number lies in its interval. -/
theorem has_of_round {num den : Nat} (positive : 0 < den) (nonzero : x.magnitude.1 ≠ 0)
    (rounded : binary64.round num den = some x.magnitude) : x.rounding.Has (num / den) := by
  have even : x.rounding.closed = (x.magnitude.1 % 2 == 0) := rfl
  obtain ⟨width, lowEnd, _, _, widths⟩ := exists_low_end nonzero
  have some : num ≠ 0 := by
    rintro rfl
    have nothing : binary64.round 0 den = some (0, -1074) := if_pos rfl
    rw [nothing] at rounded
    exact nonzero (congrArg Prod.fst (Option.some.inj rounded)).symm
  obtain ⟨near, tie, narrow⟩ := near_of_round (m := x.magnitude.1) (q := x.magnitude.2) some positive rounded
  obtain ⟨least, most⟩ := abs_le.1 near
  have step := two_zpow_pos x.magnitude.2
  obtain ⟨t, value⟩ : ∃ t : ℚ, (num : ℚ) / den = t * 2 ^ x.magnitude.2 :=
    ⟨num / den / 2 ^ x.magnitude.2, by field_simp⟩
  rw [value, mul_div_cancel_right₀ _ step.ne'] at least most tie narrow
  rw [Rounding.Has, lowEnd, high_end, even, value, mul_le_mul_iff_of_pos_right step,
    mul_le_mul_iff_of_pos_right step]
  rcases widths with wide | ⟨quarter, power, fine⟩
  · refine ⟨⟨by linarith, by linarith⟩, fun opened => ⟨fun same => ?_, fun same => ?_⟩⟩
    · have edge := mul_right_cancel₀ step.ne' same
      have away : |t - x.magnitude.1| = 1 / 2 := by
        rw [← edge, wide]
        norm_num
      simp [tie away] at opened
    · have edge := mul_right_cancel₀ step.ne' same
      have away : |t - x.magnitude.1| = 1 / 2 := by
        rw [edge]
        norm_num
      simp [tie away] at opened
  · have near := narrow power fine
    refine ⟨⟨by linarith, by linarith⟩, fun opened => ?_⟩
    simp [power] at opened

/-! ## Numbers of a magnitude -/

theorem magnitude_ofMagnitude (negative : Bool) {m : Nat} {q : Int} (fits : Fits m q) :
    (ofMagnitude negative m q).magnitude = (m, q) := by
  obtain ⟨small, least, greatest, whole⟩ := fits
  rw [ofMagnitude, twoTo_eq]
  split
  · next fine =>
    rw [magnitude, exponentField_ofFields negative (by decide) fine, if_pos rfl,
      fraction_ofFields negative (by decide) fine, whole.resolve_right (by omega)]
  · rw [magnitude, exponentField_ofFields negative (by omega) (by omega), if_neg (by omega),
      fraction_ofFields negative (by omega) (by omega), twoTo_eq]
    congr 1
    all_goals omega

theorem negative_ofMagnitude (negative : Bool) {m : Nat} {q : Int} (fits : Fits m q) :
    (ofMagnitude negative m q).negative = negative := by
  obtain ⟨small, least, greatest, whole⟩ := fits
  rw [Double.negative, ofMagnitude, twoTo_eq, twoTo_eq]
  split
  · next fine =>
    rw [toNat_ofFields negative (by decide) fine]
    cases negative <;> grind
  · rw [toNat_ofFields negative (by omega) (by omega)]
    cases negative <;> grind

/-- What a number is when a value well within the range is rounded to it. -/
structure Nearest (x : Double) (negative : Bool) (value : ℚ) : Prop where
  finite : x.isFinite = true
  sign : x.negative = negative
  /-- It has all of its bits. -/
  normal : 2 ^ 52 ≤ x.magnitude.1
  has : x.rounding.Has value

theorem exists_nearest (negative : Bool) {num den : Nat} (positive : 0 < den)
    (low : (2 : ℚ) ^ (-1000 : Int) ≤ num / den) (high : (num : ℚ) / den < 2 ^ (1000 : Int)) :
    ∃ x, ofRatio? negative num den = some x ∧ binary64.round num den = some x.magnitude ∧
      x.Nearest negative (num / den) := by
  obtain ⟨⟨m, q⟩, rounded⟩ := Option.isSome_iff_exists.1 (round_isSome positive high)
  have some : num ≠ 0 := by
    rintro rfl
    rw [Nat.cast_zero, zero_div] at low
    exact absurd (two_zpow_pos _) low.not_gt
  have fits := round_fits positive rounded
  obtain ⟨near, _, _⟩ := near_of_round some positive rounded
  have normal : 2 ^ 52 ≤ m := by
    refine fits.whole.resolve_left fun finest => ?_
    have small : (m : ℚ) < 2 ^ 53 := by exact_mod_cast fits.small
    have scale := two_zpow_pos (-1074)
    obtain ⟨_, most⟩ := abs_le.1 near
    rw [finest] at most
    have many : (num : ℚ) / den / 2 ^ (-1074 : Int) < 2 ^ 54 := by linarith
    rw [div_lt_iff₀ scale] at many
    have wide : (2 : ℚ) ^ 54 * 2 ^ (-1074 : Int) ≤ 2 ^ (-1000 : Int) := by
      rw [← zpow_natCast, ← zpow_add₀ (by norm_num)]
      exact zpow_le_zpow_right₀ (by norm_num) (by norm_num)
    linarith
  have magnitude := magnitude_ofMagnitude negative fits
  have made : binary64.round num den = Option.some (ofMagnitude negative m q).magnitude := by
    rw [magnitude, rounded]
  have bits : 2 ^ 52 ≤ (ofMagnitude negative m q).magnitude.1 := by
    rw [magnitude]
    exact normal
  refine ⟨ofMagnitude negative m q, by rw [ofRatio?, rounded]; rfl, made,
    isFinite_ofMagnitude negative fits, negative_ofMagnitude negative fits, bits, ?_⟩
  exact has_of_round positive (by omega) made

/-- The part by which a number can differ from what was rounded to it. -/
def roundoff : ℚ := 1 / 2 ^ 52

theorem roundoff_pos : 0 < roundoff := by
  rw [roundoff]
  positivity

theorem roundoff_le : roundoff ≤ 1 / 2 := by
  rw [roundoff]
  norm_num

theorem one_add_roundoff_nonneg : 0 ≤ 1 + roundoff := (add_pos one_pos roundoff_pos).le

theorem within_of_has (normal : 2 ^ 52 ≤ x.magnitude.1) {value : ℚ} (inside : x.rounding.Has value) :
    Within (1 + roundoff) value x.size := by
  obtain ⟨width, lowEnd, half, _⟩ := exists_low_end (x := x) (by omega)
  obtain ⟨⟨low, high⟩, _⟩ := inside
  rw [lowEnd] at low
  rw [high_end] at high
  have bits : (2 : ℚ) ^ 52 ≤ x.magnitude.1 := by exact_mod_cast normal
  have step := two_zpow_pos x.magnitude.2
  have one : 1 ≤ x.magnitude.1 * roundoff := by
    rw [roundoff, mul_one_div, one_le_div (by positivity)]
    exact bits
  constructor
  · calc value ≤ (x.magnitude.1 + 1 / 2) * 2 ^ x.magnitude.2 := high
      _ ≤ x.magnitude.1 * (1 + roundoff) * 2 ^ x.magnitude.2 :=
          mul_le_mul_of_nonneg_right (by linarith) step.le
      _ = x.size * (1 + roundoff) := by
          rw [size]
          ring
  · have less : (x.magnitude.1 : ℚ) ≤ (x.magnitude.1 - width) * (1 + roundoff) := by
      have part : width * roundoff ≤ 1 / 2 * (1 / 2) :=
        mul_le_mul half roundoff_le roundoff_pos.le (by norm_num)
      linarith
    calc x.size ≤ (x.magnitude.1 - width) * (1 + roundoff) * 2 ^ x.magnitude.2 :=
          mul_le_mul_of_nonneg_right less step.le
      _ = (x.magnitude.1 - width) * 2 ^ x.magnitude.2 * (1 + roundoff) := by ring
      _ ≤ value * (1 + roundoff) := mul_le_mul_of_nonneg_right low one_add_roundoff_nonneg

namespace Nearest

variable {negative : Bool} {value : ℚ}

theorem nonzero (near : x.Nearest negative value) : x.magnitude.1 ≠ 0 := by
  have := near.normal
  omega

theorem pos (near : x.Nearest negative value) : 0 < x.size := size_pos near.nonzero

theorem within (near : x.Nearest negative value) : Within (1 + roundoff) x.size value :=
  (within_of_has near.normal near.has).symm

/-- A number near a value of a moderate size has a moderate size. -/
theorem bounds (near : x.Nearest negative value) (low : 1 ≤ value) (high : value ≤ 2 ^ (400 : Int)) :
    (2 : ℚ) ^ (-1 : Int) ≤ x.size ∧ x.size ≤ 2 ^ (401 : Int) := by
  obtain ⟨below, above⟩ := near.within
  have part : 1 + roundoff ≤ 2 := by linarith [roundoff_le]
  constructor
  · have := mul_le_mul_of_nonneg_left part near.pos.le
    rw [zpow_neg_one]
    linarith
  · calc x.size ≤ value * (1 + roundoff) := below
      _ ≤ 2 ^ (400 : Int) * 2 := mul_le_mul high part one_add_roundoff_nonneg (two_zpow_pos _).le
      _ = 2 ^ (400 + 1 : Int) := (zpow_add_one₀ (by norm_num) _).symm

end Nearest

/-! ## Exact numbers -/

/-- A ratio of no more than 53 bits, far from the ends of the range, is a number. -/
theorem size_of_round {num den bits : Nat} {place : Int} (positive : 0 < den) (nonzero : bits ≠ 0)
    (few : bits < 2 ^ 53) (least : -1000 ≤ place) (greatest : place ≤ 900)
    (same : (num : ℚ) / den = bits * 2 ^ place) (rounded : binary64.round num den = some x.magnitude) :
    x.size = num / den := by
  have low := Nat.log2_self_le nonzero
  have high := @Nat.lt_log2_self bits
  have most : Nat.log2 bits < 53 := (Nat.log2_lt nonzero).2 few
  -- Filled up with zeros to all of its bits.
  obtain ⟨zeros, top⟩ : ∃ zeros : Nat, Nat.log2 bits + zeros = 52 := ⟨52 - Nat.log2 bits, by omega⟩
  have value : ((bits * 2 ^ zeros : Nat) : ℚ) * 2 ^ (place - zeros) = num / den := by
    rw [same, zpow_sub₀ (by norm_num), zpow_natCast]
    push_cast
    field_simp
  have scaled : (num : ℚ) / den / 2 ^ (place - zeros) = (bits * 2 ^ zeros : Nat) := by
    rw [← value, mul_div_cancel_right₀ _ (two_zpow_pos _).ne']
  have normal : 2 ^ 52 ≤ bits * 2 ^ zeros := by
    rw [← top, Nat.pow_add]
    exact Nat.mul_le_mul_right _ low
  have small : bits * 2 ^ zeros < 2 ^ 53 := by
    have upper : 2 ^ 53 = 2 ^ (Nat.log2 bits + 1) * 2 ^ zeros := by
      rw [← Nat.pow_add]
      congr 1
      omega
    rw [upper]
    exact Nat.mul_lt_mul_of_pos_right high (Nat.pow_pos (by decide))
  have fits : Fits (bits * 2 ^ zeros) (place - zeros) := ⟨small, by omega, by omega, .inr normal⟩
  have exact := round_of_near positive (by omega) fits (by rw [scaled, sub_self]; norm_num)
    (by rw [scaled, sub_self]; norm_num) (by rw [scaled]; intros; linarith)
  rw [exact] at rounded
  rw [size, ← Option.some.inj rounded]
  exact value

/-! ## Products and quotients -/

section
variable {y : Double} (first : (2 : ℚ) ^ (-1 : Int) ≤ x.size ∧ x.size ≤ 2 ^ (401 : Int))
  (second : (2 : ℚ) ^ (-1 : Int) ≤ y.size ∧ y.size ≤ 2 ^ (401 : Int))
include first second

theorem exists_product : ∃ z, x.times? y = some z ∧
    z.Nearest (x.negative != y.negative) (x.size * y.size) := by
  have ratio := ratio_scaled (x.magnitude.1 * y.magnitude.1) 1 (-(x.magnitude.2 + y.magnitude.2))
  have value : ((x.magnitude.1 * y.magnitude.1 : Nat) : ℚ) / (1 : Nat) /
      2 ^ (-(x.magnitude.2 + y.magnitude.2)) = x.size * y.size := by
    rw [zpow_neg, zpow_add₀ (by norm_num), size, size]
    push_cast
    field_simp
  rw [value] at ratio
  have low : (2 : ℚ) ^ (-1000 : Int) ≤ x.size * y.size := by
    calc (2 : ℚ) ^ (-1000 : Int) ≤ 2 ^ (-1 + -1 : Int) := zpow_le_zpow_right₀ (by norm_num) (by norm_num)
      _ = 2 ^ (-1 : Int) * 2 ^ (-1 : Int) := zpow_add₀ (by norm_num) _ _
      _ ≤ x.size * y.size :=
          mul_le_mul first.1 second.1 (two_zpow_pos _).le ((two_zpow_pos _).le.trans first.1)
  have high : x.size * y.size < 2 ^ (1000 : Int) := by
    calc x.size * y.size ≤ 2 ^ (401 : Int) * 2 ^ (401 : Int) :=
          mul_le_mul first.2 second.2 ((two_zpow_pos _).le.trans second.1) (two_zpow_pos _).le
      _ = 2 ^ (401 + 401 : Int) := (zpow_add₀ (by norm_num) _ _).symm
      _ < 2 ^ (1000 : Int) := zpow_lt_zpow_right₀ (by norm_num) (by norm_num)
  obtain ⟨z, made, _, near⟩ := exists_nearest (x.negative != y.negative)
    (scaledRatio_pos (x.magnitude.1 * y.magnitude.1) Nat.one_pos _) (ratio ▸ low) (ratio ▸ high)
  rw [ratio] at near
  exact ⟨z, made, near⟩

theorem exists_quotient : ∃ z, x.dividedBy? y = some z ∧
    z.Nearest (x.negative != y.negative) (x.size / y.size) := by
  have divisor : y.magnitude.1 ≠ 0 := by
    intro zero
    have none : y.size = 0 := by rw [size, zero, Nat.cast_zero, zero_mul]
    rw [none] at second
    exact absurd (two_zpow_pos _) second.1.not_gt
  have some := size_pos divisor
  have ratio := ratio_scaled x.magnitude.1 y.magnitude.1 (y.magnitude.2 - x.magnitude.2)
  have value : (x.magnitude.1 : ℚ) / y.magnitude.1 / 2 ^ (y.magnitude.2 - x.magnitude.2) =
      x.size / y.size := by
    rw [zpow_sub₀ (by norm_num), size, size]
    field_simp
  rw [value] at ratio
  have low : (2 : ℚ) ^ (-1000 : Int) ≤ x.size / y.size := by
    rw [le_div_iff₀ some]
    calc (2 : ℚ) ^ (-1000 : Int) * y.size ≤ 2 ^ (-1000 : Int) * 2 ^ (401 : Int) :=
          mul_le_mul_of_nonneg_left second.2 (two_zpow_pos _).le
      _ = 2 ^ (-1000 + 401 : Int) := (zpow_add₀ (by norm_num) _ _).symm
      _ ≤ 2 ^ (-1 : Int) := zpow_le_zpow_right₀ (by norm_num) (by norm_num)
      _ ≤ x.size := first.1
  have high : x.size / y.size < 2 ^ (1000 : Int) := by
    rw [div_lt_iff₀ some]
    calc x.size ≤ 2 ^ (401 : Int) := first.2
      _ < 2 ^ (1000 + -1 : Int) := zpow_lt_zpow_right₀ (by norm_num) (by norm_num)
      _ = 2 ^ (1000 : Int) * 2 ^ (-1 : Int) := zpow_add₀ (by norm_num) _ _
      _ ≤ 2 ^ (1000 : Int) * y.size := mul_le_mul_of_nonneg_left second.1 (two_zpow_pos _).le
  obtain ⟨z, made, _, near⟩ := exists_nearest (x.negative != y.negative)
    (scaledRatio_pos x.magnitude.1 (Nat.pos_of_ne_zero divisor) _) (ratio ▸ low) (ratio ▸ high)
  rw [ratio] at near
  refine ⟨z, ?_, near⟩
  rw [dividedBy?]
  dsimp only
  rw [if_neg divisor]
  exact made

end

end Double

/-! ## Powers of ten -/

namespace Scaled
open Double

theorem nearest_powerOfTen {n : Nat} (moderate : n ≤ 100) : (powerOfTen n).Nearest false (10 ^ n) ∧
    binary64.round (tenTo n) 1 = some (powerOfTen n).magnitude := by
  have ratio : (tenTo n : ℚ) / (1 : Nat) = 10 ^ n := by simp [tenTo_eq]
  have low : (2 : ℚ) ^ (-1000 : Int) ≤ tenTo n / (1 : Nat) := by
    rw [ratio]
    exact (zpow_le_one_of_nonpos₀ (by norm_num) (by omega)).trans (one_le_pow₀ (by norm_num))
  have high : (tenTo n : ℚ) / (1 : Nat) < 2 ^ (1000 : Int) := by
    rw [ratio, ← zpow_natCast]
    exact ten_zpow_lt_two_zpow (by omega) (by omega)
  obtain ⟨x, made, rounded, near⟩ := exists_nearest false Nat.one_pos low high
  have sign : decide ((tenTo n : Int) < 0) = false := decide_eq_false (by omega)
  have same : powerOfTen n = x := by
    rw [powerOfTen, ofInt, sign, Int.natAbs_natCast, made]
    rfl
  rw [same, ← ratio]
  exact ⟨near, rounded⟩

theorem powerOfTen_bounds {n : Nat} (moderate : n ≤ 100) :
    (2 : ℚ) ^ (-1 : Int) ≤ (powerOfTen n).size ∧ (powerOfTen n).size ≤ 2 ^ (401 : Int) := by
  refine (nearest_powerOfTen moderate).1.bounds (one_le_pow₀ (by norm_num)) ?_
  rw [← zpow_natCast]
  exact (ten_zpow_lt_two_zpow (by omega) (by omega)).le

/-- The first powers of ten are numbers. -/
theorem size_powerOfTen {n : Nat} (short : n ≤ 22) : (powerOfTen n).size = 10 ^ n := by
  obtain ⟨_, rounded⟩ := nearest_powerOfTen (by omega : n ≤ 100)
  have few : 5 ^ n < 2 ^ 53 :=
    (Nat.pow_le_pow_right (by decide) short).trans_lt (by norm_num)
  have ratio : (tenTo n : ℚ) / (1 : Nat) = (5 ^ n : Nat) * 2 ^ (n : Int) := by
    rw [tenTo_eq, zpow_natCast]
    push_cast
    rw [div_one, ← mul_pow]
    norm_num
  rw [size_of_round Nat.one_pos (pow_ne_zero _ (by decide)) few (by omega) (by omega) ratio rounded]
  simp [tenTo_eq]

/-! ## Cut decimals -/

/-- The magnitude. -/
def value (n : Scaled) : ℚ := n.significand * 10 ^ n.exponent

section
variable {n : Scaled} {whole : Double} {k : Nat}
  (first : Double.ofRatio? n.negative n.significand 1 = some whole) (nonzero : n.significand ≠ 0)
include first nonzero

theorem toDouble?_of_raised (raised : n.exponent = k) (within : k ≤ widest) :
    n.toDouble? = whole.times? (powerOfTen k) := by
  have small : ¬ (widest : Int) < k := by omega
  have up : 0 ≤ (k : Int) := by omega
  simp only [toDouble?, first, bind, Option.bind_some, if_neg nonzero, raised, if_neg small, if_pos up,
    Int.toNat_natCast]

theorem toDouble?_of_lowered (lowered : n.exponent = -(k : Int)) (some : 0 < k) (within : k ≤ widest) :
    n.toDouble? = whole.dividedBy? (powerOfTen k) := by
  have small : ¬ (widest : Int) < -(k : Int) := by omega
  have down : ¬ 0 ≤ -(k : Int) := by omega
  have places : (- -(k : Int)).toNat = k := by omega
  simp only [toDouble?, first, bind, Option.bind_some, if_neg nonzero, lowered, if_neg small, if_neg down,
    places, if_pos within]

end

/-- The significand becomes a number of a moderate size, exactly if it is short. -/
theorem exists_significand (negative : Bool) {m : Nat} (nonzero : m ≠ 0) (small : m < 2 ^ 64) :
    ∃ x, Double.ofRatio? negative m 1 = some x ∧ x.Nearest negative m ∧
      ((2 : ℚ) ^ (-1 : Int) ≤ x.size ∧ x.size ≤ 2 ^ (401 : Int)) ∧ (m < 2 ^ 53 → x.size = m) := by
  have ratio : (m : ℚ) / (1 : Nat) = m := by simp
  have one : (1 : ℚ) ≤ m := Nat.one_le_cast.2 (Nat.one_le_iff_ne_zero.2 nonzero)
  have bits : (m : ℚ) < 2 ^ (64 : Int) := by exact_mod_cast small
  have low : (2 : ℚ) ^ (-1000 : Int) ≤ m / (1 : Nat) := by
    rw [ratio]
    exact (zpow_le_one_of_nonpos₀ (by norm_num) (by omega)).trans one
  have high : (m : ℚ) / (1 : Nat) < 2 ^ (1000 : Int) := by
    rw [ratio]
    exact bits.trans (zpow_lt_zpow_right₀ (by norm_num) (by omega))
  obtain ⟨x, made, rounded, near⟩ := exists_nearest negative Nat.one_pos low high
  rw [ratio] at near
  refine ⟨x, made, near, ?_, fun few => ?_⟩
  · exact near.bounds one (bits.le.trans (zpow_le_zpow_right₀ (by norm_num) (by omega)))
  · rw [← ratio]
    exact size_of_round Nat.one_pos nonzero few (by omega : (-1000 : Int) ≤ 0) (by omega) (by simp) rounded

/-- A decimal other than zero that is not too large or small becomes a number. Its significand
and the power of ten are rounded before they are put together, unless they are short. -/
theorem exists_toDouble? {n : Scaled} (nonzero : n.significand ≠ 0) (moderate : n.exponent.natAbs ≤ 100) :
    ∃ x value, n.toDouble? = some x ∧ x.Nearest n.negative value ∧
      Within ((1 + roundoff) * (1 + roundoff)) value n.value ∧
      (n.significand < 2 ^ 53 → n.exponent.natAbs ≤ 22 → value = n.value) := by
  obtain ⟨whole, first, near, wholeBounds, exactly⟩ := exists_significand n.negative nonzero n.small
  have positive : (0 : ℚ) ≤ n.significand := Nat.cast_nonneg _
  by_cases up : 0 ≤ n.exponent
  · obtain ⟨k, raised⟩ := Int.eq_ofNat_of_zero_le up
    obtain ⟨nearPower, _⟩ := nearest_powerOfTen (by omega : k ≤ 100)
    obtain ⟨x, product, nearest⟩ := exists_product wholeBounds (powerOfTen_bounds (n := k) (by omega))
    rw [near.sign, nearPower.sign, Bool.bne_false] at nearest
    refine ⟨x, _, ?_, nearest, ?_, ?_⟩
    · exact (toDouble?_of_raised first nonzero raised (by rw [widest]; omega)).trans product
    · rw [value, raised, zpow_natCast]
      exact Within.mul one_add_roundoff_nonneg ⟨near.pos.le, positive, nearPower.pos.le, by positivity⟩
        near.within nearPower.within
    · intro few short
      rw [exactly few, size_powerOfTen (by omega), value, raised, zpow_natCast]
  · obtain ⟨k, lowered⟩ : ∃ k : Nat, n.exponent = -(k : Int) := ⟨n.exponent.natAbs, by omega⟩
    obtain ⟨nearPower, _⟩ := nearest_powerOfTen (by omega : k ≤ 100)
    obtain ⟨x, quotient, nearest⟩ := exists_quotient wholeBounds (powerOfTen_bounds (n := k) (by omega))
    rw [near.sign, nearPower.sign, Bool.bne_false] at nearest
    have inverse : n.value = n.significand / 10 ^ k := by
      rw [value, lowered, zpow_neg, zpow_natCast, div_eq_mul_inv]
    refine ⟨x, _, ?_, nearest, ?_, ?_⟩
    · exact (toDouble?_of_lowered first nonzero lowered (by omega) (by rw [widest]; omega)).trans quotient
    · rw [inverse]
      exact Within.div one_add_roundoff_nonneg ⟨near.pos.le, positive, nearPower.pos, by positivity⟩
        near.within nearPower.within
    · intro few short
      rw [exactly few, size_powerOfTen (by omega), inverse]

end Scaled
end Polyquery.Decimal
