import Mathlib.Algebra.Order.Floor.Ring
import Mathlib.Data.Rat.Floor
import Mathlib.Tactic.FieldSimp
import Mathlib.Tactic.Linarith
import Mathlib.Tactic.Positivity
import Polyquery.Decimal.Double

/-! Rounding to binary64. A ratio is scaled to the grid on which it has 53 bits, or to
the finest grid there is, and goes to the nearest number there, on a tie to the even
one. So a ratio in the interval around a number is rounded to that number; the interval
is narrower below a power of two, where the grid is finer. -/
namespace Polyquery.Decimal

theorem twoTo_eq (n : Nat) : twoTo n = 2 ^ n := rfl

/-! ## Scaled ratios -/

theorem scaledRatio_pos (num : Nat) {den : Nat} (positive : 0 < den) (q : Int) :
    0 < (scaledRatio num den q).2 := by
  unfold scaledRatio
  split
  · exact Nat.mul_pos positive (Nat.pow_pos (by decide))
  · exact positive

theorem ratio_scaled (num den : Nat) (q : Int) :
    ((scaledRatio num den q).1 : ℚ) / (scaledRatio num den q).2 = num / den / 2 ^ q := by
  unfold scaledRatio
  split
  · next up =>
    obtain ⟨k, rfl⟩ := Int.eq_ofNat_of_zero_le up
    have power : twoTo (Int.toNat k) = 2 ^ k := rfl
    simp only [power, Nat.cast_mul, Nat.cast_pow, Nat.cast_ofNat, zpow_natCast, div_div]
  · next down =>
    obtain ⟨k, rfl⟩ : ∃ k : Nat, q = -(k : Int) := ⟨(-q).toNat, by omega⟩
    have power : twoTo (-(-(k : Int))).toNat = 2 ^ k := by simp [twoTo]
    simp only [power, Nat.cast_mul, Nat.cast_pow, Nat.cast_ofNat, zpow_neg, zpow_natCast, div_inv_eq_mul]
    ring

/-! ## The nearest natural number -/

/-- A natural number at most a half away is the nearest one, if it is even on a tie. -/
theorem nearestEven_eq {num den m : Nat} (positive : 0 < den)
    (near : |(num : ℚ) / den - m| ≤ 1 / 2) (tie : |(num : ℚ) / den - m| = 1 / 2 → m % 2 = 0) :
    nearestEven num den = m := by
  have size : (0 : ℚ) < den := Nat.cast_pos.2 positive
  have whole : (num : ℚ) = den * (num / den : Nat) + (num % den : Nat) := by
    exact_mod_cast (Nat.div_add_mod num den).symm
  have ratio : (num : ℚ) / den = (num / den : Nat) + (num % den : Nat) / den := by
    rw [whole]
    field_simp
  obtain ⟨below, above⟩ := abs_le.1 near
  simp only [nearestEven]
  split_ifs with less more even
  · -- Below the half: a number at most a half away cannot be another one.
    have part : ((num % den : Nat) : ℚ) / den < 1 / 2 := by
      rw [div_lt_div_iff₀ size (by norm_num)]
      exact_mod_cast (by omega : num % den * 2 < 1 * den)
    have least : (0 : ℚ) ≤ (num % den : Nat) / den := by positivity
    have upper : ((num / den : Nat) : ℚ) < m + 1 := by linarith
    have lower : (m : ℚ) < (num / den : Nat) + 1 := by linarith
    have : num / den < m + 1 := by exact_mod_cast upper
    have : m < num / den + 1 := by exact_mod_cast lower
    omega
  · have part : 1 / 2 < ((num % den : Nat) : ℚ) / den := by
      rw [div_lt_div_iff₀ (by norm_num) size]
      exact_mod_cast (by omega : 1 * den < num % den * 2)
    have most : ((num % den : Nat) : ℚ) / den < 1 := by
      rw [div_lt_one size]
      exact_mod_cast Nat.mod_lt _ positive
    have upper : ((num / den : Nat) : ℚ) < m := by linarith
    have lower : (m : ℚ) < (num / den : Nat) + 2 := by linarith
    have : num / den < m := by exact_mod_cast upper
    have : m < num / den + 2 := by exact_mod_cast lower
    omega
  all_goals
    have half : ((num % den : Nat) : ℚ) / den = 1 / 2 := by
      rw [div_eq_div_iff size.ne' (by norm_num)]
      exact_mod_cast (by omega : num % den * 2 = 1 * den)
    have upper : ((num / den : Nat) : ℚ) ≤ m := by linarith
    have lower : (m : ℚ) ≤ (num / den : Nat) + 1 := by linarith
    have low : num / den ≤ m := by exact_mod_cast upper
    have high : m ≤ num / den + 1 := by exact_mod_cast lower
    have parity : m % 2 = 0 := by
      refine tie ?_
      rw [ratio, half]
      rcases (by omega : m = num / den ∨ m = num / den + 1) with same | next
      · rw [same]
        norm_num
      · rw [next]
        push_cast
        norm_num [abs_eq]
    omega

/-- The nearest natural number is at most a half away. -/
theorem nearestEven_le {num den bound : Nat} (positive : 0 < den) (below : num < bound * den) :
    nearestEven num den ≤ bound := by
  have floor : num / den < bound := (Nat.div_lt_iff_lt_mul positive).2 below
  simp only [nearestEven]
  split_ifs <;> omega

theorem le_nearestEven {num den bound : Nat} (positive : 0 < den) (above : bound * den ≤ num) :
    bound ≤ nearestEven num den := by
  have floor : bound ≤ num / den := (Nat.le_div_iff_mul_le positive).2 above
  simp only [nearestEven]
  split_ifs <;> omega

/-! ## The grid of a ratio -/

theorem two_zpow_pos (q : Int) : (0 : ℚ) < 2 ^ q := zpow_pos (by norm_num) q

theorem log2_bounds {n : Nat} (nonzero : n ≠ 0) :
    (2 : ℚ) ^ (Nat.log2 n : Int) ≤ n ∧ (n : ℚ) < 2 ^ ((Nat.log2 n : Int) + 1) := by
  have below := Nat.log2_self_le nonzero
  have above := @Nat.lt_log2_self n
  constructor
  · rw [zpow_natCast]
    exact_mod_cast below
  · have power : (2 : ℚ) ^ ((Nat.log2 n : Int) + 1) = ((2 ^ (Nat.log2 n + 1) : Nat) : ℚ) := by
      push_cast
      exact zpow_natCast 2 (Nat.log2 n + 1)
    rw [power]
    exact_mod_cast above

/-- A ratio lies between the powers of two that its logarithms say. -/
theorem ratio_bounds {num den : Nat} (nonzero : num ≠ 0) (positive : 0 < den) :
    (2 : ℚ) ^ ((Nat.log2 num : Int) - Nat.log2 den - 1) < num / den ∧
      (num : ℚ) / den < 2 ^ ((Nat.log2 num : Int) - Nat.log2 den + 1) := by
  obtain ⟨numLow, numHigh⟩ := log2_bounds nonzero
  obtain ⟨denLow, denHigh⟩ := log2_bounds positive.ne'
  have size : (0 : ℚ) < den := Nat.cast_pos.2 positive
  constructor
  · rw [lt_div_iff₀ size]
    calc (2 : ℚ) ^ ((Nat.log2 num : Int) - Nat.log2 den - 1) * den
        < 2 ^ ((Nat.log2 num : Int) - Nat.log2 den - 1) * 2 ^ ((Nat.log2 den : Int) + 1) :=
          mul_lt_mul_of_pos_left denHigh (two_zpow_pos _)
      _ = 2 ^ (Nat.log2 num : Int) := by
          rw [← zpow_add₀ (by norm_num)]
          congr 1
          ring
      _ ≤ num := numLow
  · rw [div_lt_iff₀ size]
    calc (num : ℚ) < 2 ^ ((Nat.log2 num : Int) + 1) := numHigh
      _ = 2 ^ ((Nat.log2 num : Int) - Nat.log2 den + 1) * 2 ^ (Nat.log2 den : Int) := by
          rw [← zpow_add₀ (by norm_num)]
          congr 1
          ring
      _ ≤ 2 ^ ((Nat.log2 num : Int) - Nat.log2 den + 1) * den :=
          mul_le_mul_of_nonneg_left denLow (two_zpow_pos _).le

/-- What rounding makes of the nearest number on a grid. -/
def Layout.settle (layout : Layout) (m : Nat) (q : Int) : Option (Nat × Int) :=
  let (m, q) := if m < twoTo layout.precision then (m, q) else (m / 2, q + 1)
  if layout.greatest < q then none else some (m, q)

/-- The exponent of the first grid that is tried for a ratio. -/
def Layout.guess (layout : Layout) (num den : Nat) : Int :=
  max layout.least ((Nat.log2 num : Int) - Nat.log2 den - layout.precision)

theorem Layout.round_eq (layout : Layout) {num den n d : Nat} {q : Int} (nonzero : num ≠ 0)
    (guess : layout.guess num den = q) (parts : scaledRatio num den q = (n, d)) :
    layout.round num den =
      if n < d * twoTo layout.precision then layout.settle (nearestEven n d) q
      else layout.settle (nearestEven n (2 * d)) (q + 1) := by
  rw [Layout.guess] at guess
  simp only [Layout.round, if_neg nonzero, guess, parts, settle]
  by_cases fits : n < d * twoTo layout.precision <;> simp only [fits, ↓reduceIte]

/-- A ratio is rounded on a grid on which it has 53 bits, or fewer on the finest one. -/
theorem exists_grid {num den : Nat} (nonzero : num ≠ 0) (positive : 0 < den) :
    ∃ (q : Int) (n d : Nat), 0 < d ∧ (n : ℚ) / d = num / den / 2 ^ q ∧ (n : ℚ) / d < 2 ^ 53 ∧
      -1074 ≤ q ∧ (q = -1074 ∨ 2 ^ 52 ≤ (n : ℚ) / d) ∧
      binary64.round num den = binary64.settle (nearestEven n d) q := by
  obtain ⟨low, high⟩ := ratio_bounds nonzero positive
  generalize order : (Nat.log2 num : Int) - Nat.log2 den = k at low high
  generalize grid : max (-1074) (k - 53) = q
  have scaled := ratio_scaled num den q
  have scaledPos := scaledRatio_pos num positive q
  generalize parts : scaledRatio num den q = r at scaled scaledPos
  obtain ⟨n, d⟩ := r
  have size : (0 : ℚ) < d := Nat.cast_pos.2 scaledPos
  have fine : (n : ℚ) / d < 2 ^ 54 := by
    rw [scaled, div_lt_iff₀ (two_zpow_pos q)]
    calc (num : ℚ) / den < 2 ^ (k + 1) := high
      _ ≤ 2 ^ (54 + q) := zpow_le_zpow_right₀ (by norm_num) (by omega)
      _ = 2 ^ 54 * 2 ^ q := by
          rw [zpow_add₀ (by norm_num)]
          norm_num
  have coarse : q = -1074 ∨ (2 : ℚ) ^ 52 ≤ n / d := by
    rcases (by omega : q = -1074 ∨ q = k - 53) with finest | exact
    · exact .inl finest
    · refine .inr ?_
      rw [scaled, le_div_iff₀ (two_zpow_pos q)]
      calc (2 : ℚ) ^ 52 * 2 ^ q = 2 ^ (k - 1) := by
            rw [exact, ← zpow_natCast, ← zpow_add₀ (by norm_num)]
            congr 1
            push_cast
            ring
        _ ≤ num / den := low.le
  have guess : binary64.guess num den = q := by
    rw [← grid, ← order]
    rfl
  have rounded := binary64.round_eq nonzero guess parts
  have bits : twoTo binary64.precision = 2 ^ 53 := twoTo_eq 53
  by_cases fits : n < d * twoTo binary64.precision
  · refine ⟨q, n, d, scaledPos, scaled, ?_, by omega, coarse, by rw [rounded, if_pos fits]⟩
    rw [div_lt_iff₀ size, mul_comm]
    rw [bits] at fits
    exact_mod_cast fits
  · have half : (n : ℚ) / (2 * d : Nat) = n / d / 2 := by
      push_cast
      rw [div_div, mul_comm]
    refine ⟨q + 1, n, 2 * d, by omega, ?_, ?_, by omega, .inr ?_, by rw [rounded, if_neg fits]⟩
    · rw [half, scaled, zpow_add_one₀ (by norm_num), div_div _ _ (2 : ℚ)]
    · rw [half]
      linarith
    · have above : (2 : ℚ) ^ 53 ≤ n / d := by
        rw [le_div_iff₀ size, mul_comm]
        rw [bits] at fits
        exact_mod_cast Nat.not_lt.1 fits
      rw [half]
      linarith

/-! ## Fields -/

namespace Double

section
variable (negative : Bool) {exponent fraction : Nat} (small : exponent < 2048) (part : fraction < 2 ^ 52)
include small part

theorem toNat_ofFields : (ofFields negative exponent fraction).bits.toNat =
    (if negative then 2 ^ 63 else 0) + exponent * 2 ^ 52 + fraction := by
  rw [ofFields, Nat.toUInt64, UInt64.toNat_ofNat', twoTo_eq, twoTo_eq]
  apply Nat.mod_eq_of_lt
  split <;> omega

theorem exponentField_ofFields : (ofFields negative exponent fraction).exponentField = exponent := by
  rw [exponentField, toNat_ofFields negative small part, twoTo_eq, twoTo_eq]
  split <;> omega

theorem fraction_ofFields : (ofFields negative exponent fraction).fraction = fraction := by
  rw [Double.fraction, toNat_ofFields negative small part, twoTo_eq]
  split <;> omega

end

/-- A number is made of its fields. -/
theorem ofFields_self (x : Double) : ofFields x.negative x.exponentField x.fraction = x := by
  have bound : x.bits.toNat < 2 ^ 64 := x.bits.toNat_lt
  have small : x.exponentField < 2048 := Nat.mod_lt _ (by decide)
  have part : x.fraction < 2 ^ 52 := Nat.mod_lt _ (by decide)
  have same : (ofFields x.negative x.exponentField x.fraction).bits.toNat = x.bits.toNat := by
    rw [toNat_ofFields x.negative small part, Double.negative, exponentField, Double.fraction,
      twoTo_eq, twoTo_eq, twoTo_eq]
    simp only [decide_eq_true_eq]
    split <;> omega
  cases x
  exact congrArg Double.mk (UInt64.toNat_inj.1 same)

end Double

/-! ## Outcomes -/

/-- A number of the layout: 53 bits, or fewer on the finest grid. -/
structure Fits (m : Nat) (q : Int) : Prop where
  small : m < 2 ^ 53
  least : -1074 ≤ q
  greatest : q ≤ 971
  whole : q = -1074 ∨ 2 ^ 52 ≤ m

theorem settle_fits {m m' : Nat} {q q' : Int} (most : m ≤ 2 ^ 53) (least : -1074 ≤ q)
    (whole : q = -1074 ∨ 2 ^ 52 ≤ m) (settled : binary64.settle m q = some (m', q')) : Fits m' q' := by
  have bits : twoTo binary64.precision = 2 ^ 53 := twoTo_eq 53
  have greatest : binary64.greatest = 971 := rfl
  simp only [Layout.settle, bits, greatest] at settled
  split at settled
  · next small =>
    split at settled
    · cases settled
    · cases settled
      exact ⟨small, least, by omega, whole⟩
  · split at settled
    · cases settled
    · cases settled
      exact ⟨by omega, by omega, by omega, .inr (by omega)⟩

/-- A rounded ratio is a number of the layout. -/
theorem round_fits {num den m : Nat} {q : Int} (positive : 0 < den)
    (rounded : binary64.round num den = some (m, q)) : Fits m q := by
  by_cases zero : num = 0
  · have nothing : binary64.round num den = some (0, -1074) := if_pos zero
    rw [nothing] at rounded
    cases rounded
    exact ⟨by decide, by decide, by decide, .inl rfl⟩
  · obtain ⟨grid, n, d, size, _, below, least, whole, settled⟩ := exists_grid zero positive
    have sizeQ : (0 : ℚ) < d := Nat.cast_pos.2 size
    rw [settled] at rounded
    refine settle_fits (nearestEven_le size ?_) least ?_ rounded
    · rw [div_lt_iff₀ sizeQ] at below
      exact_mod_cast below
    · refine whole.imp id fun above => ?_
      rw [le_div_iff₀ sizeQ] at above
      exact le_nearestEven size (by exact_mod_cast above)

/-- A ratio well within the range has a nearest number. -/
theorem round_isSome {num den : Nat} (positive : 0 < den) (below : (num : ℚ) / den < 2 ^ (1000 : Int)) :
    (binary64.round num den).isSome := by
  by_cases zero : num = 0
  · have nothing : binary64.round num den = some (0, -1074) := if_pos zero
    rw [nothing]
    rfl
  · obtain ⟨grid, n, d, size, ratio, _, _, whole, settled⟩ := exists_grid zero positive
    have low : grid < 971 := by
      rcases whole with finest | above
      · omega
      · have power : (2 : ℚ) ^ (52 + grid) < 2 ^ (1000 : Int) := by
          calc (2 : ℚ) ^ (52 + grid) = 2 ^ 52 * 2 ^ grid := by
                rw [zpow_add₀ (by norm_num)]
                norm_cast
            _ ≤ n / d * 2 ^ grid := mul_le_mul_of_nonneg_right above (two_zpow_pos grid).le
            _ = num / den := by rw [ratio, div_mul_cancel₀ _ (two_zpow_pos grid).ne']
            _ < 2 ^ (1000 : Int) := below
        have := (zpow_lt_zpow_iff_right₀ (by norm_num)).1 power
        omega
    have greatest : binary64.greatest = 971 := rfl
    rw [settled]
    simp only [Layout.settle, greatest]
    split_ifs <;> first | rfl | omega

/-- On a finer grid a number would have too many bits, but for a power of two, and that
only on the next grid. -/
theorem next_of_finer {m : Nat} {q grid : Int} {t : ℚ} (finer : grid < q) (normal : 2 ^ 52 ≤ m)
    (below : (m : ℚ) - 1 / 2 ≤ t) (bounded : t * 2 ^ (q - grid) < 2 ^ 53) :
    m = 2 ^ 52 ∧ q = grid + 1 := by
  have bits : (2 ^ 52 : ℚ) ≤ m := by exact_mod_cast normal
  have positive : 0 ≤ t := by linarith
  have scales {s : ℚ} {k : Int} (power : s = 2 ^ k) (coarse : k ≤ q - grid) : s * t < 2 ^ 53 := by
    calc s * t = t * 2 ^ k := by rw [power, mul_comm]
      _ ≤ t * 2 ^ (q - grid) := mul_le_mul_of_nonneg_left (zpow_le_zpow_right₀ (by norm_num) coarse) positive
      _ < 2 ^ 53 := bounded
  have double : 2 * t < 2 ^ 53 := scales (zpow_one 2).symm (by omega)
  have power : m = 2 ^ 52 := by
    have bound : (m : ℚ) < (2 ^ 52 + 1 : Nat) := by
      push_cast
      linarith
    have : m < 2 ^ 52 + 1 := by exact_mod_cast bound
    omega
  refine ⟨power, ?_⟩
  by_contra further
  have fourfold : 4 * t < 2 ^ 53 := scales (k := 2) (by norm_num) (by omega)
  linarith

/-- What lies closer to a number of the layout than to any other is rounded to it. Below
a power of two the grid is finer, and half of the distance is enough. -/
theorem round_of_near {num den m : Nat} {q : Int} (positive : 0 < den) (nonzero : m ≠ 0)
    (fits : Fits m q) (near : |(num : ℚ) / den / 2 ^ q - m| ≤ 1 / 2)
    (tie : |(num : ℚ) / den / 2 ^ q - m| = 1 / 2 → m % 2 = 0)
    (narrow : m = 2 ^ 52 → -1074 < q → (m : ℚ) - 1 / 4 ≤ num / den / 2 ^ q) :
    binary64.round num den = some (m, q) := by
  obtain ⟨small, least, greatest, whole⟩ := fits
  have one : (1 : ℚ) ≤ m := Nat.one_le_cast.2 (Nat.one_le_iff_ne_zero.2 nonzero)
  have most : (m : ℚ) ≤ 2 ^ 53 - 1 := by exact_mod_cast (by omega : (m : Int) ≤ 2 ^ 53 - 1)
  obtain ⟨below, above⟩ := abs_le.1 near
  have some : num ≠ 0 := by
    rintro rfl
    norm_num at below
    linarith
  obtain ⟨grid, n, d, size, ratio, bounded, leastGrid, wholeGrid, settled⟩ := exists_grid some positive
  generalize units : (num : ℚ) / den / 2 ^ q = t at near tie narrow below above
  have scaled : (n : ℚ) / d = t * 2 ^ (q - grid) := by
    rw [ratio, ← units, zpow_sub₀ (by norm_num), div_mul_div_comm, mul_comm ((num : ℚ) / den),
      mul_div_mul_left _ _ (two_zpow_pos q).ne']
  have bits : twoTo binary64.precision = 2 ^ 53 := twoTo_eq 53
  have top : binary64.greatest = 971 := rfl
  rw [settled]
  rcases lt_trichotomy grid q with finer | same | coarser
  · have normal : 2 ^ 52 ≤ m := whole.resolve_left (by omega)
    obtain ⟨power, next⟩ := next_of_finer finer normal (by linarith) (scaled ▸ bounded)
    have exact : (n : ℚ) / d = 2 * t := by
      rw [scaled, next, add_sub_cancel_left, zpow_one, mul_comm]
    have rounded : nearestEven n d = 2 ^ 53 := by
      have least := narrow power (by omega)
      rw [power] at least
      refine nearestEven_eq size ?_ fun _ => rfl
      rw [exact] at bounded ⊢
      push_cast at least ⊢
      exact abs_le.2 ⟨by linarith, by linarith⟩
    rw [rounded, Layout.settle, bits, top, power, next]
    norm_num
    omega
  · have rounded : nearestEven n d = m := by
      refine nearestEven_eq size ?_ ?_ <;> rw [scaled, same, sub_self, zpow_zero, mul_one]
      · exact near
      · exact tie
    rw [rounded, Layout.settle, bits, top, if_pos small, same]
    exact if_neg (by omega)
  · -- On a coarser grid it would have too few.
    exfalso
    have half : (n : ℚ) / d ≤ t / 2 := by
      have power : (2 : ℚ) ^ (q - grid) ≤ 2 ^ (-1 : Int) := zpow_le_zpow_right₀ (by norm_num) (by omega)
      rw [scaled, div_eq_mul_inv]
      exact mul_le_mul_of_nonneg_left (by simpa using power) (by linarith)
    have above := wholeGrid.resolve_left (by omega)
    linarith

namespace Double

theorem isFinite_ofMagnitude (negative : Bool) {m : Nat} {q : Int} (fits : Fits m q) :
    (ofMagnitude negative m q).isFinite = true := by
  obtain ⟨small, least, greatest, whole⟩ := fits
  rw [isFinite, bne_iff_ne, ofMagnitude, twoTo_eq]
  split
  · next fine =>
    rw [exponentField_ofFields negative (by decide) fine]
    decide
  · rw [exponentField_ofFields negative (by omega) (by omega)]
    omega

theorem isNaN_of_isFinite {x : Double} (finite : x.isFinite = true) : x.isNaN = false := by
  rw [isFinite, bne_iff_ne] at finite
  simp [isNaN, finite]

theorem isFinite_ofRatio? {negative : Bool} {num den : Nat} {x : Double} (positive : 0 < den)
    (rounded : ofRatio? negative num den = some x) : x.isFinite = true := by
  obtain ⟨⟨m, q⟩, settled, rfl⟩ := Option.map_eq_some_iff.1 rounded
  exact isFinite_ofMagnitude negative (round_fits positive settled)

/-- An integer of not too many bits has a finite nearest number. -/
theorem isFinite_ofInt {n : Int} (small : n.natAbs < 2 ^ 65) : (ofInt n).isFinite = true := by
  have below : (n.natAbs : ℚ) / (1 : Nat) < 2 ^ (1000 : Int) := by
    calc (n.natAbs : ℚ) / (1 : Nat) = n.natAbs := by simp
      _ < 2 ^ (65 : Int) := by exact_mod_cast small
      _ ≤ 2 ^ (1000 : Int) := zpow_le_zpow_right₀ (by norm_num) (by norm_num)
  obtain ⟨⟨m, q⟩, rounded⟩ := Option.isSome_iff_exists.1 (round_isSome (by decide) below)
  have nearest : ofRatio? (n < 0) n.natAbs 1 = some (ofMagnitude (n < 0) m q) := by
    rw [ofRatio?, rounded]
    rfl
  rw [ofInt, nearest, Option.getD_some]
  exact isFinite_ofRatio? (by decide) nearest

/-- Every integer has a nearest number, perhaps infinite. -/
theorem isNaN_ofInt (n : Int) : (ofInt n).isNaN = false := by
  rw [ofInt]
  cases rounded : ofRatio? (n < 0) n.natAbs 1 with
  | some x => exact isNaN_of_isFinite (isFinite_ofRatio? (by decide) rounded)
  | none =>
    have whole : (infinity (decide (n < 0))).fraction = 0 := fraction_ofFields _ (by decide) (by decide)
    simp [isNaN, whole]

/-- A number is that of its magnitude. -/
theorem ofMagnitude_self (x : Double) :
    ofMagnitude x.negative x.magnitude.1 x.magnitude.2 = x := by
  have part : x.fraction < 2 ^ 52 := Nat.mod_lt _ (by decide)
  have fields := ofFields_self x
  unfold magnitude
  split
  · next subnormal =>
    rw [ofMagnitude, twoTo_eq, if_pos part]
    rwa [subnormal] at fields
  · next normal =>
    have back : ((x.exponentField : Int) - 1075 + 1075).toNat = x.exponentField := by omega
    rw [ofMagnitude, twoTo_eq, if_neg (by simp), back, Nat.add_sub_cancel]
    exact fields

theorem magnitude_fits {x : Double} (finite : x.isFinite = true) :
    Fits x.magnitude.1 x.magnitude.2 := by
  have part : x.fraction < 2 ^ 52 := Nat.mod_lt _ (by decide)
  have small : x.exponentField < 2048 := Nat.mod_lt _ (by decide)
  rw [isFinite, bne_iff_ne] at finite
  unfold magnitude
  rw [twoTo_eq]
  split
  · exact ⟨by omega, Int.le_refl _, by norm_num, .inl rfl⟩
  · exact ⟨by dsimp only; omega, by dsimp only; omega, by dsimp only; omega, .inr (by dsimp only; omega)⟩

end Double

end Polyquery.Decimal
