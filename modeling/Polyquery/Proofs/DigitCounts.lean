import Mathlib.Algebra.Order.Floor.Semiring
import Polyquery.Proofs.ShortestDigits

/-! How many digits a printed number has. The search for the shortest digits starts with a step
greater than the number and stops at the first grid that has a point in the interval. Had it
passed over a grid with a step narrower than the interval, it would have stopped there; so
there are at most seventeen digits. A decimal of at most fifteen digits that is rounded to a
number is what is printed for it, since no two such decimals are as close as that. -/
namespace Polyquery.Decimal

/-- A point of a grid, on a finer one. -/
theorem point_on_finer {j k : Int} (finer : j ≤ k) (point : Nat) :
    (point : ℚ) * 10 ^ k = (point * 10 ^ (k - j).toNat : Nat) * 10 ^ j := by
  obtain ⟨more, rfl⟩ := Int.le.dest finer
  rw [add_sub_cancel_left, Int.toNat_natCast, zpow_add₀ (by norm_num), zpow_natCast]
  push_cast
  ring

/-! ## Intervals of rationals -/

namespace Rounding

/-- The rationals of the interval: between the ends, and no end unless they count. -/
def Has (r : Rounding) (value : ℚ) : Prop :=
  ((r.low : ℚ) * 2 ^ r.unit ≤ value ∧ value ≤ r.high * 2 ^ r.unit) ∧
    (r.closed = false → (r.low : ℚ) * 2 ^ r.unit ≠ value ∧ value ≠ r.high * 2 ^ r.unit)

variable {r : Rounding} {tie : Tie} {k : Int} {value first second : ℚ}

theorem has_iff {point : Nat} : r.Has (point * 10 ^ k) ↔ r.contains point k = true :=
  (r.contains_iff point k).symm

theorem Has.between (left : r.Has first) (right : r.Has second) (above : first ≤ value)
    (below : value ≤ second) : r.Has value := by
  obtain ⟨⟨low, _⟩, strictLow⟩ := left
  obtain ⟨⟨_, high⟩, strictHigh⟩ := right
  refine ⟨⟨low.trans above, below.trans high⟩, fun opened => ⟨?_, ?_⟩⟩
  · exact ((lt_of_le_of_ne low (strictLow opened).1).trans_le above).ne
  · exact (below.trans_lt (lt_of_le_of_ne high (strictHigh opened).2)).ne

theorem has_of_inside (low : (r.low : ℚ) * 2 ^ r.unit < value) (high : value < r.high * 2 ^ r.unit) :
    r.Has value :=
  ⟨⟨low.le, high.le⟩, fun _ => ⟨low.ne, high.ne⟩⟩

/-- A grid that has a point in the interval has one of the neighbours of the number there. -/
theorem onGrid_isSome {point : Nat} (middle : r.Has (r.middle * 2 ^ r.unit)) (nonzero : point ≠ 0)
    (inside : r.Has (point * 10 ^ k)) : (r.onGrid tie k).isSome := by
  obtain ⟨floor, ceiling⟩ :=
    floor_against (scaledRatio r.middle 1 (-r.unit)).1 (end_pos r.middle r.unit) k
  rw [end_ratio] at floor ceiling
  simp only [onGrid]
  generalize against (scaledRatio r.middle 1 (-r.unit)).1 (scaledRatio r.middle 1 (-r.unit)).2 1 k =
    pair at floor ceiling ⊢
  generalize pair.1 / pair.2 = n at floor ceiling ⊢
  by_cases before : point ≤ n
  · have order : (point : ℚ) * 10 ^ k ≤ n * 10 ^ k :=
      mul_le_mul_of_nonneg_right (by exact_mod_cast before) (ten_zpow_pos k).le
    have lower : r.contains n k = true := has_iff.1 (inside.between middle order floor)
    have counts : (r.contains n k && n != 0) = true := by
      rw [lower, Bool.true_and, bne_iff_ne]
      omega
    rw [counts]
    cases r.contains (n + 1) k <;> rfl
  · have order : ((n + 1 : Nat) : ℚ) * 10 ^ k ≤ point * 10 ^ k :=
      mul_le_mul_of_nonneg_right (by exact_mod_cast Nat.not_le.1 before) (ten_zpow_pos k).le
    have upper : r.contains (n + 1) k = true := has_iff.1 (middle.between inside ceiling.le order)
    rw [upper]
    cases r.contains n k && n != 0 <;> rfl

/-- A step without a point in the interval is wider than the interval, or leads past it. -/
theorem wide_of_none {step : ℚ} (positive : 0 < step) (middle : r.Has value) (some : 0 < value)
    (none : ∀ point : Nat, point ≠ 0 → ¬ r.Has (point * step)) :
    (r.high : ℚ) * 2 ^ r.unit ≤ step ∨ (r.high : ℚ) * 2 ^ r.unit - r.low * 2 ^ r.unit ≤ step := by
  have floor : (⌊value / step⌋₊ : ℚ) * step ≤ value :=
    (le_div_iff₀ positive).1 (Nat.floor_le (div_pos some positive).le)
  have ceiling : value < ((⌊value / step⌋₊ + 1 : Nat) : ℚ) * step := by
    rw [← div_lt_iff₀ positive]
    exact_mod_cast Nat.lt_floor_add_one (value / step)
  generalize ⌊value / step⌋₊ = n at floor ceiling
  have past : (r.high : ℚ) * 2 ^ r.unit ≤ ((n + 1 : Nat) : ℚ) * step := by
    by_contra inside
    exact none (n + 1) n.succ_ne_zero
      (has_of_inside (middle.1.1.trans_lt ceiling) (not_le.1 inside))
  have next : ((n + 1 : Nat) : ℚ) * step = n * step + step := by
    push_cast
    ring
  by_cases zero : n = 0
  · left
    simpa [zero] using past
  · right
    have before : (n : ℚ) * step ≤ r.low * 2 ^ r.unit := by
      by_contra inside
      refine none n zero ⟨⟨(not_le.1 inside).le, floor.trans middle.1.2⟩, fun opened => ?_⟩
      have most := lt_of_le_of_ne middle.1.2 (middle.2 opened).2
      exact ⟨(not_le.1 inside).ne, (floor.trans_lt most).ne⟩
    linarith

/-- The search stops at one of its grids, and has passed over all coarser ones. -/
theorem search_passes (r : Rounding) (tie : Tie) (tries : Nat) (k : Int) :
    (r.search tie tries k).exponent ≤ k ∧ k - tries ≤ (r.search tie tries k).exponent ∧
      ∀ j, (r.search tie tries k).exponent < j → j ≤ k → r.onGrid tie j = none := by
  induction tries generalizing k with
  | zero => exact ⟨le_rfl, by simp [search], fun j above below => absurd below (not_le.2 above)⟩
  | succ tries ih =>
    rw [search]
    cases found : r.onGrid tie k with
    | some point =>
      refine ⟨le_rfl, ?_, fun j above below => absurd below (not_le.2 above)⟩
      dsimp only
      omega
    | none =>
      obtain ⟨most, least, passed⟩ := ih (k - 1)
      dsimp only
      refine ⟨by omega, by omega, fun j above below => ?_⟩
      by_cases here : j = k
      · exact here ▸ found
      · exact passed j above (by omega)

end Rounding

/-! ## The order of a number -/

/-- A ratio is less than the power of ten after its order. -/
theorem lt_decimalOrder {num den : Nat} (nonzero : num ≠ 0) (positive : 0 < den)
    (least : -1075 < (Nat.log2 num : Int) - Nat.log2 den)
    (greatest : (Nat.log2 num : Int) - Nat.log2 den < 1025) :
    (num : ℚ) / den < 10 ^ (decimalOrder num den + 1) := by
  obtain ⟨_, bits⟩ := ratio_bounds nonzero positive
  have less (k : Int) : ¬ (against num den 1 k).2 ≤ (against num den 1 k).1 → (num : ℚ) / den < 10 ^ k := by
    intro beyond
    rw [against_ge num positive, Nat.cast_one, one_mul] at beyond
    exact not_le.1 beyond
  simp only [decimalOrder, decide_eq_true_eq]
  split_ifs with two one
  · -- The power of two that bounds the ratio lies below the power of ten two above the guess.
    refine bits.trans ?_
    rw [← inv_lt_inv₀ (ten_zpow_pos _) (two_zpow_pos _), ← zpow_neg, ← zpow_neg]
    exact ten_zpow_lt_two_zpow (by omega) (by omega)
  · exact less _ two
  · rw [sub_add_cancel]
    exact less _ one

namespace Double

variable {x : Double}

/-- The magnitude as a rational. -/
def size (x : Double) : ℚ := x.magnitude.1 * 2 ^ x.magnitude.2

theorem size_pos (nonzero : x.magnitude.1 ≠ 0) : 0 < x.size :=
  mul_pos (Nat.cast_pos.2 (Nat.pos_of_ne_zero nonzero)) (two_zpow_pos _)

theorem has_middle (nonzero : x.magnitude.1 ≠ 0) : x.rounding.Has (x.rounding.middle * 2 ^ x.rounding.unit) := by
  have less : (x.rounding.low : ℚ) < x.rounding.middle := by exact_mod_cast low_lt_middle nonzero
  have more : (x.rounding.middle : ℚ) < x.rounding.high := by
    have above : x.rounding.high = x.rounding.middle + 2 := rfl
    rw [above]
    push_cast
    linarith
  have unit := two_zpow_pos x.rounding.unit
  exact Rounding.has_of_inside (mul_lt_mul_of_pos_right less unit) (mul_lt_mul_of_pos_right more unit)

/-- Where the search for the shortest digits of a number starts. -/
def order (x : Double) : Int :=
  decimalOrder (scaledRatio x.rounding.middle 1 (-x.rounding.unit)).1
    (scaledRatio x.rounding.middle 1 (-x.rounding.unit)).2

theorem size_lt_order (finite : x.isFinite = true) (nonzero : x.magnitude.1 ≠ 0) :
    x.size < 10 ^ (x.order + 1) := by
  have positive := end_pos x.rounding.middle x.rounding.unit
  have ratio := (end_ratio x.rounding.middle x.rounding.unit).trans x.middle_end
  obtain ⟨some, least, greatest⟩ := log2_range finite nonzero positive ratio
  have most := (magnitude_fits finite).greatest
  have bound := lt_decimalOrder some positive least (by omega)
  rwa [ratio] at bound

/-- What is found for a number, before zeros at its end are dropped. -/
theorem found_has (finite : x.isFinite = true) (nonzero : x.magnitude.1 ≠ 0) (tie : Tie) :
    x.rounding.Has (x.rounding.search tie 18 x.order).value := by
  have middle := (end_ratio x.rounding.middle x.rounding.unit).trans x.middle_end
  have fine := fine_grid finite nonzero (end_pos x.rounding.middle x.rounding.unit) middle
  refine Rounding.has_iff.2 (Rounding.search_contains (Rounding.onGrid_of_fine (low_lt_middle nonzero) ?_))
  rw [middle_end, high_end, add_mul]
  rw [zpow_sub_one₀ (by norm_num)] at fine
  push_cast
  change _ + 10 ^ (decimalOrder _ _ - 18) < _
  linarith

theorem shortest_value (x : Double) (tie : Tie) :
    (x.shortest tie).value = (x.rounding.search tie 18 x.order).value :=
  Shortest.value_trimmed _ _

theorem shortest_has (finite : x.isFinite = true) (nonzero : x.magnitude.1 ≠ 0) (tie : Tie) :
    x.rounding.Has (x.shortest tie).value :=
  x.shortest_value tie ▸ found_has finite nonzero tie

/-- The number, the middle of its interval. -/
theorem has_size (nonzero : x.magnitude.1 ≠ 0) : x.rounding.Has x.size := by
  rw [size, ← middle_end]
  exact has_middle nonzero

/-- The upper end is at most twice the number. -/
theorem le_twice_of_has (nonzero : x.magnitude.1 ≠ 0) {value : ℚ} (inside : x.rounding.Has value) :
    value ≤ 2 * x.size := by
  have one : (1 : ℚ) ≤ x.magnitude.1 := Nat.one_le_cast.2 (Nat.one_le_iff_ne_zero.2 nonzero)
  have most := inside.1.2
  rw [high_end] at most
  refine most.trans ?_
  rw [size, ← mul_assoc]
  exact mul_le_mul_of_nonneg_right (by linarith) (two_zpow_pos _).le

/-- On the grid where the search starts, the interval has no point beyond nineteen steps. -/
theorem lt_twenty_of_has (finite : x.isFinite = true) (nonzero : x.magnitude.1 ≠ 0) {point : Nat}
    (inside : x.rounding.Has (point * 10 ^ x.order)) : point < 20 := by
  have below := size_lt_order finite nonzero
  rw [zpow_add_one₀ (by norm_num)] at below
  have bound : (point : ℚ) < 20 := by
    refine lt_of_mul_lt_mul_right ?_ (ten_zpow_pos x.order).le
    linarith [le_twice_of_has nonzero inside]
  exact_mod_cast bound

/-! ## Seventeen digits -/

/-- A grid that was passed over has no point in the interval. -/
theorem not_has_of_none {tie : Tie} {k : Int} (nonzero : x.magnitude.1 ≠ 0)
    (none : x.rounding.onGrid tie k = none) {point : Nat} (some : point ≠ 0) :
    ¬ x.rounding.Has (point * 10 ^ k) := by
  intro inside
  have found : (x.rounding.onGrid tie k).isSome := Rounding.onGrid_isSome (has_middle nonzero) some inside
  rw [none] at found
  cases found

theorem found_digits_lt (finite : x.isFinite = true) (nonzero : x.magnitude.1 ≠ 0) (tie : Tie) :
    (x.rounding.search tie 18 x.order).digits < 10 ^ 17 := by
  have small := (magnitude_fits finite).small
  obtain ⟨most, _, passed⟩ := Rounding.search_passes x.rounding tie 18 x.order
  have inside := found_has finite nonzero tie
  rw [Shortest.value] at inside
  generalize x.rounding.search tie 18 x.order = s at most passed inside ⊢
  by_cases first : s.exponent = x.order
  · rw [first] at inside
    have few := lt_twenty_of_has finite nonzero inside
    omega
  have step := ten_zpow_pos s.exponent
  have unit := two_zpow_pos x.magnitude.2
  have top := inside.1.2
  rw [high_end] at top
  have bits : (x.magnitude.1 : ℚ) ≤ 2 ^ 53 - 1 := by exact_mod_cast (by omega : (x.magnitude.1 : Int) ≤ 2 ^ 53 - 1)
  by_contra many
  have long : (10 : ℚ) ^ 17 * 10 ^ s.exponent ≤ (x.magnitude.1 + 1 / 2) * 2 ^ x.magnitude.2 := by
    refine le_trans (mul_le_mul_of_nonneg_right ?_ step.le) top
    exact_mod_cast Nat.not_lt.1 many
  have next : (10 : ℚ) ^ (s.exponent + 1) = 10 * 10 ^ s.exponent := by
    rw [zpow_add_one₀ (by norm_num), mul_comm]
  have none := passed (s.exponent + 1) (by omega) (by omega)
  rcases Rounding.wide_of_none (ten_zpow_pos (s.exponent + 1)) (has_size nonzero) (size_pos nonzero)
    fun point some => not_has_of_none nonzero none some with past | wide
  · rw [high_end, next] at past
    linarith
  · obtain ⟨width, lowEnd, _, _, widths⟩ := exists_low_end nonzero
    rw [high_end, lowEnd, next, ← sub_mul] at wide
    have narrow : (x.magnitude.1 + 1 / 2 - (x.magnitude.1 - width)) * 10 ^ 16 ≤ (x.magnitude.1 : ℚ) + 1 / 2 := by
      refine le_of_mul_le_mul_right ?_ unit
      linarith
    rcases widths with half | ⟨quarter, power, _⟩
    · rw [half] at narrow
      linarith
    · rw [quarter, power] at narrow
      norm_num at narrow

theorem trimmed_digits_le (bound : Nat) (s : Shortest) : (s.trimmed bound).digits ≤ s.digits := by
  induction bound generalizing s with
  | zero => exact le_rfl
  | succ bound ih =>
    rw [Shortest.trimmed]
    split
    · exact (ih _).trans (Nat.div_le_self _ _)
    · exact le_rfl

/-- A number is printed with at most seventeen digits. -/
theorem shortest_digits_lt (finite : x.isFinite = true) (nonzero : x.magnitude.1 ≠ 0) (tie : Tie) :
    (x.shortest tie).digits < 10 ^ 17 :=
  (trimmed_digits_le _ _).trans_lt (found_digits_lt finite nonzero tie)

/-! ## Fifteen digits -/

/-- The interval is at most as wide as a unit in the last bit. -/
theorem width_le (nonzero : x.magnitude.1 ≠ 0) {first second : ℚ} (left : x.rounding.Has first)
    (right : x.rounding.Has second) : second - first ≤ 2 ^ x.magnitude.2 := by
  obtain ⟨width, lowEnd, half, _⟩ := exists_low_end nonzero
  have low := left.1.1
  have high := right.1.2
  rw [lowEnd] at low
  rw [high_end] at high
  have share := mul_le_mul_of_nonneg_right half (two_zpow_pos x.magnitude.2).le
  linarith

/-- Two points of a grid in the interval are one, unless they have as many digits as the
number has bits. -/
theorem points_eq {k : Int} (normal : 2 ^ 52 ≤ x.magnitude.1) {first second : Nat} (few : first < 2 ^ 51)
    (left : x.rounding.Has (first * 10 ^ k)) (right : x.rounding.Has (second * 10 ^ k)) :
    first = second := by
  have nonzero : x.magnitude.1 ≠ 0 := by omega
  have step := ten_zpow_pos k
  have unit := two_zpow_pos x.magnitude.2
  by_contra apart
  have far : (10 : ℚ) ^ k ≤ 2 ^ x.magnitude.2 := by
    rcases Nat.lt_or_gt_of_ne apart with before | behind
    · have one : (first : ℚ) + 1 ≤ second := by exact_mod_cast before
      have wide := width_le nonzero left right
      have := mul_le_mul_of_nonneg_right one step.le
      linarith
    · have one : (second : ℚ) + 1 ≤ first := by exact_mod_cast behind
      have wide := width_le nonzero right left
      have := mul_le_mul_of_nonneg_right one step.le
      linarith
  obtain ⟨width, lowEnd, half, _⟩ := exists_low_end nonzero
  have low := left.1.1
  have bits : (2 : ℚ) ^ 52 ≤ x.magnitude.1 := by exact_mod_cast normal
  have short : (first : ℚ) ≤ 2 ^ 51 := by exact_mod_cast few.le
  have shorter : (2 : ℚ) ^ 51 < x.magnitude.1 - width := by linarith
  rw [lowEnd] at low
  have long := mul_lt_mul_of_pos_right shorter unit
  have most : (first : ℚ) * 10 ^ k ≤ 2 ^ 51 * 2 ^ x.magnitude.2 :=
    mul_le_mul short far step.le (by norm_num)
  linarith

/-- A decimal of at most fifteen digits in the interval of a number is what is printed for it. -/
theorem shortest_value_of_has (finite : x.isFinite = true) (normal : 2 ^ 52 ≤ x.magnitude.1) {digits : Nat}
    {exponent : Int} (some : digits ≠ 0) (few : digits < 10 ^ 15)
    (inside : x.rounding.Has (digits * 10 ^ exponent)) (tie : Tie) :
    (x.shortest tie).value = digits * 10 ^ exponent := by
  have nonzero : x.magnitude.1 ≠ 0 := by omega
  have found := found_has finite nonzero tie
  obtain ⟨_, _, passed⟩ := Rounding.search_passes x.rounding tie 18 x.order
  rw [shortest_value]
  generalize x.rounding.search tie 18 x.order = s at found passed ⊢
  -- Both are points of one grid: that of the decimal, or that on which the search starts.
  generalize grid : min exponent x.order = j
  have decimal := point_on_finer (by omega : j ≤ exponent) digits
  rw [decimal] at inside ⊢
  have short : digits * 10 ^ (exponent - j).toNat < 2 ^ 51 := by
    by_cases fine : exponent ≤ x.order
    · have same : (exponent - j).toNat = 0 := by omega
      rw [same, pow_zero, mul_one]
      omega
    · have start : j = x.order := by omega
      have few : digits * 10 ^ (exponent - j).toNat < 20 :=
        lt_twenty_of_has finite nonzero (start ▸ inside)
      omega
  have reached : j ≤ s.exponent := by
    by_contra passedOver
    refine not_has_of_none nonzero (passed j (by omega) (by omega)) ?_ inside
    exact mul_ne_zero some (pow_ne_zero _ (by decide))
  have value : s.value = (s.digits * 10 ^ (s.exponent - j).toNat : Nat) * 10 ^ j :=
    point_on_finer reached s.digits
  rw [value] at found ⊢
  rw [points_eq normal short inside found]

end Double

end Polyquery.Decimal
