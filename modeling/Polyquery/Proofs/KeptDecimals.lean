import Polyquery.Proofs.CompactTexts
import Polyquery.Proofs.CutDecimals
import Polyquery.Proofs.JoinedRows

/-! What is kept of the decimals in a column. Each of them becomes a number, and none a text,
since the reader of numbers takes any count of digits and rounds. So a whole number of 64 bits
is kept, and so is a decimal of fifteen digits with no more than 22 places; any other one may
differ from what its number denotes, if by less than one part in `10 ^ 15`. A decimal of more
than seventeen digits that is no such whole number never stays the same, as no number is
printed with so many. -/
namespace Polyquery
open Text Decimal Database

/-! ## What values denote -/

/-- The number that a numeral denotes, exactly. -/
def Decimal.spelled? (text : List Char) : Option ℚ :=
  match FloatText.read? text with
  | some (.numeral n) => some (signed n.negative n.value)
  | _ => none

/-- The number that a value denotes: a number does by its printed text, a text by itself. -/
def Json.denoted? : Json → Option ℚ
  | .number n => spelled? n.print
  | .string text => spelled? text.toList
  | _ => none

theorem Decimal.Written.spelled?_text (w : Written) (negative : Bool) :
    spelled? (sign negative ++ w.text) = some (signed negative (w.numeral negative).value) := by
  rw [spelled?, w.read?_text negative]
  rfl

namespace Json

theorem denoted?_int {n : Int} (inRange : InRange n) : (Json.number (.int n inRange)).denoted? = some (n : ℚ) := by
  have size : ((Written.ofNat n.natAbs).numeral (decide (n < 0))).value = n.natAbs := by
    rw [Written.value_numeral]
    simp [Written.ofNat, Sql.digitsValue_toDigits]
  rw [denoted?, print_int, Written.spelled?_text, size, Option.some.injEq, signed]
  simp only [decide_eq_true_eq]
  split
  · next below =>
    rw [Nat.cast_natAbs, abs_of_neg below]
    push_cast
    ring
  · next above => rw [Nat.cast_natAbs, abs_of_nonneg (not_lt.1 above)]

theorem denoted?_float {x : Double} (finite : x.isFinite = true) (nonzero : x.magnitude.1 ≠ 0) :
    (Json.number (.float x finite)).denoted? = some (signed x.negative (x.shortest .even).value) := by
  obtain ⟨w, text, value⟩ := exists_magnitude_value .json finite nonzero
  rw [denoted?, Number.print, print_of_magnitude finite text, Written.spelled?_text, value]
  rfl

/-- A number that does not fit as an integer is read by cutting and rounding. -/
theorem ofNumeral?_float {negative : Bool} {whole : List Char} {fraction : Option (List Char)} {x : Double}
    (finite : x.isFinite = true)
    (read : (Scaled.ofParts negative whole (fraction.getD []) 0).toDouble? = some x)
    (outside : fraction = none → digitsValue whole ≠ 0 ∧
      ¬ InRange (if negative then -(digitsValue whole : Int) else digitsValue whole)) :
    Number.ofNumeral? negative whole fraction none = some (.float x finite) := by
  unfold Number.ofNumeral?
  simp only [Option.getD_none, read, finite, ↓reduceDIte, Option.isSome_none, Bool.or_false]
  cases fraction with
  | some digits => rfl
  | none =>
    obtain ⟨nonzero, beyond⟩ := outside rfl
    have counts : (negative && digitsValue whole == 0) = false := by simp [nonzero]
    simp only [Option.isSome_none, Bool.false_eq_true, ↓reduceIte, counts, Number.ofInt?, beyond, ↓reduceDIte]
    rfl

end Json

/-! ## Decimals as values -/

/-- A whole number of 64 bits, with a sign or without. -/
def Json.IsWhole (value : ℚ) : Prop := ∃ n : Int, InRange n ∧ value = n

/-- The digits of a decimal on both sides of the point. -/
def Decimal.Fixed.written (d : Fixed) : Written :=
  { Written.ofNat (d.mantissa / tenTo d.scale) with
    fraction := d.parts.2
    fractionDigits := by
      have digits := d.spelled_parts.digits
      rw [List.all_append, Bool.and_eq_true] at digits
      exact digits.2 }

theorem Decimal.Fixed.print_eq (d : Fixed) : d.print = Written.sign d.negative ++ d.written.text := by
  have point : d.written.text = d.parts.1 ++ Written.fractionText d.parts.2 :=
    congrArg (d.parts.1 ++ ·) (List.append_nil _)
  rw [print, point]
  cases d.negative <;> cases fraction : d.parts.2 <;> simp [Written.sign, Written.fractionText, fraction]

namespace Database

/-- The reader of JSON takes the text of a decimal apart at the point. -/
theorem readNumber_print (d : Fixed) : Json.readNumber d.print =
    some (Json.Number.ofNumeral? d.negative d.parts.1
      (if d.parts.2 = [] then none else some d.parts.2) none, []) := by
  have ends : Written.Ends [] := by simp [Written.Ends]
  rw [d.print_eq, ← List.append_nil d.written.text]
  exact d.written.readNumber_text d.negative ends

/-- The parts of a decimal in normal form are read as its number. -/
theorem ofDecimal_eq (d : Fixed) : ofDecimal d =
    match Json.Number.ofNumeral? d.normalized.negative d.normalized.parts.1
      (if d.normalized.parts.2 = [] then none else some d.normalized.parts.2) none with
    | some n => .number n
    | none => .string (String.ofList d.normalized.print) := by
  rw [ofDecimal, readNumber_print]
  cases Json.Number.ofNumeral? d.normalized.negative d.normalized.parts.1
    (if d.normalized.parts.2 = [] then none else some d.normalized.parts.2) none <;> rfl

/-- A whole number of 64 bits becomes an integer. -/
theorem ofDecimal_int {d : Fixed} {n : Int} (inRange : Json.InRange n) (same : d.value = n) :
    ofDecimal d = .number (.int n inRange) := by
  obtain ⟨whole, mantissa, sign⟩ := d.normal_normalized.of_int (d.value_normalized.trans same)
  have parts : d.normalized.parts = (Nat.toDigits 10 n.natAbs, []) := by
    rw [Fixed.parts, whole, mantissa, if_pos rfl, tenTo_eq, Nat.pow_zero, Nat.div_one]
  rw [ofDecimal_eq, parts, sign]
  simp only [↓reduceIte, Json.ofNumeral?_int inRange]

/-- The factor by which the number that is read can differ from the decimal. -/
def readingFactor : ℚ := (1 + Double.roundoff) * (1 + Double.roundoff) * (1 + Scaled.cutoff)

theorem readingFactor_nonneg : 0 ≤ readingFactor := by
  rw [readingFactor, Double.roundoff, Scaled.cutoff]
  positivity

/-- The digits of a decimal other than zero are read as a number near it, or as the nearest one
if they are few. -/
theorem exists_reading {d : Fixed} {whole fraction : List Char} (spelled : d.Spelled whole fraction)
    (negative : Bool) (nonzero : d.mantissa ≠ 0) :
    ∃ x value, (Scaled.ofParts negative whole fraction 0).toDouble? = some x ∧ x.Nearest negative value ∧
      Within readingFactor value d.size ∧ (d.mantissa < 2 ^ 53 → d.scale ≤ 22 → value = d.size) := by
  obtain ⟨mantissa, scale, digits, short⟩ := spelled
  obtain ⟨near, least, most⟩ := Scaled.ofParts_near negative digits
  have places := d.places
  have limit : scaleLimit = 28 := rfl
  rw [mantissa, scale] at near
  have taken : (Scaled.ofParts negative whole fraction 0).significand ≠ 0 := by
    intro zero
    have nothing : (Scaled.ofParts negative whole fraction 0).value = 0 := by
      rw [Scaled.value, zero, Nat.cast_zero, zero_mul]
    have below := near.2
    rw [nothing, zero_mul] at below
    exact d.mantissa_ne_zero_iff.1 nonzero (le_antisymm below d.size_nonneg)
  obtain ⟨x, value, read, nearest, close, kept⟩ := Scaled.exists_toDouble? taken (by omega)
  refine ⟨x, value, read, nearest, ?_, fun few shallow => ?_⟩
  · have one : 0 ≤ 1 + Scaled.cutoff := (add_pos one_pos Scaled.cutoff_pos).le
    have both := mul_nonneg Double.one_add_roundoff_nonneg Double.one_add_roundoff_nonneg
    exact close.trans both one near
  · have fits : digitsValue (whole ++ fraction) < 2 ^ 64 := by omega
    obtain ⟨all, exponent⟩ := Scaled.ofParts_of_fits negative fits
    rw [kept (by omega) (by omega), Scaled.value, all, exponent, mantissa, scale, zpow_neg, zpow_natCast,
      ← div_eq_mul_inv, Fixed.size]

theorem mantissa_ne_zero_of_not_whole {d : Fixed} (outside : ¬ Json.IsWhole d.value) : d.mantissa ≠ 0 := by
  intro zero
  refine outside ⟨0, by decide, ?_⟩
  rw [Fixed.value, Fixed.size, zero, Nat.cast_zero, zero_div, signed_zero, Int.cast_zero]

/-- Any other decimal becomes a binary number, of its sign and near it. -/
theorem exists_float {d : Fixed} (outside : ¬ Json.IsWhole d.value) :
    ∃ (x : Double) (finite : x.isFinite = true) (value : ℚ),
      ofDecimal d = .number (.float x finite) ∧ x.Nearest d.negative value ∧
        Within readingFactor value d.size ∧
        (d.normalized.mantissa < 2 ^ 53 → d.normalized.scale ≤ 22 → value = d.size) := by
  have sign : d.normalized.negative = d.negative :=
    Fixed.negative_normalized (mantissa_ne_zero_of_not_whole outside)
  rw [← d.value_normalized] at outside
  have nonzero := mantissa_ne_zero_of_not_whole outside
  have spelled := d.normalized.spelled_parts
  obtain ⟨x, value, read, nearest, close, kept⟩ := exists_reading spelled d.negative nonzero
  rw [d.size_normalized] at close kept
  refine ⟨x, nearest.finite, value, ?_, nearest, close, kept⟩
  rw [ofDecimal_eq, sign]
  generalize d.normalized.parts = parts at spelled read ⊢
  obtain ⟨whole, fraction⟩ := parts
  have back : (if fraction = [] then none else Option.some fraction).getD [] = fraction := by
    cases fraction <;> rfl
  rw [Json.ofNumeral?_float nearest.finite (by rw [back]; exact read)]
  intro none
  have empty : fraction = [] := by
    cases fraction with
    | nil => rfl
    | cons => cases none
  subst empty
  have mantissa : digitsValue whole = d.normalized.mantissa := by
    rw [← spelled.mantissa, List.append_nil]
  rw [mantissa]
  refine ⟨nonzero, fun inRange => outside ⟨_, inRange, ?_⟩⟩
  rw [Fixed.value, sign, Fixed.size, ← spelled.scale, List.length_nil, pow_zero, div_one, signed]
  cases d.negative <;> simp

end Database

/-! ## What is kept -/

/-- A decimal of at most fifteen digits, with no more than 22 places. -/
def IsShort (value : ℚ) : Prop :=
  ∃ digits places : Nat, digits < 10 ^ 15 ∧ places ≤ 22 ∧ |value| = digits / 10 ^ places

/-- A decimal with so many digits, wherever the point is. -/
def HasDigits (count : Nat) (value : ℚ) : Prop :=
  ∃ (digits : Nat) (exponent : Int), digits < 10 ^ count ∧ |value| = digits * 10 ^ exponent

/-- The decimal in a cell of a column of decimals. -/
def Database.CellType.decimal? : CellType → String → Option Fixed
  | .decimal, cell => Fixed.read? cell.toList
  | .groupedDecimal, cell => Fixed.readGrouped? cell.toList
  | _, _ => none

theorem Database.read_of_decimal? {type : CellType} {text : String} {d : Fixed}
    (held : type.decimal? text = some d) : type.read text = ofDecimal d := by
  cases type with
  | decimal | groupedDecimal =>
    rw [CellType.decimal?] at held
    simp only [CellType.read, held, Option.elim_some]
  | _ => cases held

theorem abs_signed_sub (negative : Bool) (a b : ℚ) : |signed negative a - signed negative b| = |a - b| := by
  cases negative with
  | false => rfl
  | true =>
    rw [signed, signed, if_pos rfl, if_pos rfl, neg_sub_neg, abs_sub_comm]

/-- Reading and printing together lose less than one part in `10 ^ 15`. -/
theorem within_printed {x : Double} {negative : Bool} {value size : ℚ} (nearest : x.Nearest negative value)
    (close : Within readingFactor value size) (positive : 0 ≤ size) :
    |(x.shortest .even).value - size| ≤ size / 10 ^ 15 := by
  have inside := Double.shortest_has nearest.finite nearest.nonzero .even
  have one := Double.one_add_roundoff_nonneg
  have rounded := nearest.within.trans one readingFactor_nonneg close
  have all := (Double.within_of_has nearest.normal inside).trans one (mul_nonneg one readingFactor_nonneg) rounded
  have factor : (1 + Double.roundoff) * ((1 + Double.roundoff) * readingFactor) - 1 ≤ 1 / 10 ^ 15 := by
    rw [readingFactor, Double.roundoff, Scaled.cutoff]
    norm_num
  have least : 1 ≤ (1 + Double.roundoff) * ((1 + Double.roundoff) * readingFactor) := by
    rw [readingFactor, Double.roundoff, Scaled.cutoff]
    norm_num
  calc |(x.shortest .even).value - size| ≤ size * _ := all.abs_sub_le positive least
    _ ≤ size * (1 / 10 ^ 15) := mul_le_mul_of_nonneg_left factor positive
    _ = size / 10 ^ 15 := by ring

/-- A short decimal is what is printed for the number that it is rounded to. -/
theorem printed_of_short {d : Fixed} {x : Double} (nearest : x.Nearest d.negative d.size)
    (few : d.normalized.mantissa < 10 ^ 15) (some : d.normalized.mantissa ≠ 0) :
    (x.shortest .even).value = d.size := by
  have size : d.size = d.normalized.mantissa * 10 ^ (-(d.normalized.scale : Int)) := by
    rw [← d.size_normalized, Fixed.size, zpow_neg, zpow_natCast, div_eq_mul_inv]
  have inside := nearest.has
  rw [size] at inside ⊢
  exact Double.shortest_value_of_has nearest.finite nearest.normal some few inside .even

theorem denoted?_of_whole {d : Fixed} (whole : Json.IsWhole d.value) :
    (∃ n, ofDecimal d = .number n) ∧ (ofDecimal d).denoted? = some d.value := by
  obtain ⟨n, inRange, same⟩ := whole
  refine ⟨⟨_, ofDecimal_int inRange same⟩, ?_⟩
  rw [ofDecimal_int inRange same, Json.denoted?_int, same]

/-- What becomes of any other decimal. -/
theorem exists_denoted {d : Fixed} (outside : ¬ Json.IsWhole d.value) :
    ∃ value, (∃ n, ofDecimal d = .number n) ∧ (ofDecimal d).denoted? = some value ∧
      |value - d.value| ≤ |d.value| / 10 ^ 15 ∧ (IsShort d.value → value = d.value) ∧ HasDigits 17 value := by
  obtain ⟨x, finite, value, made, nearest, close, kept⟩ := exists_float outside
  refine ⟨signed d.negative (x.shortest .even).value, ⟨_, made⟩, ?_, ?_, fun short => ?_, ?_⟩
  · rw [made, Json.denoted?_float finite nearest.nonzero, nearest.sign]
  · rw [Fixed.value, abs_signed_sub, abs_signed, abs_of_nonneg d.size_nonneg]
    exact within_printed nearest close d.size_nonneg
  · obtain ⟨digits, places, few, shallow, spelled⟩ := short
    rw [Fixed.abs_value, ← d.size_normalized] at spelled
    obtain ⟨least, scale⟩ := d.normal_normalized.least spelled
    have some : d.normalized.mantissa ≠ 0 :=
      mantissa_ne_zero_of_not_whole (d.value_normalized.symm ▸ outside)
    rw [kept (by omega) (by omega)] at nearest
    rw [printed_of_short nearest (by omega) some, Fixed.value]
  · have least : 0 ≤ (x.shortest .even).value := mul_nonneg (Nat.cast_nonneg _) (ten_zpow_pos _).le
    have size : |signed d.negative (x.shortest .even).value| = (x.shortest .even).value := by
      rw [abs_signed, abs_of_nonneg least]
    exact ⟨_, _, Double.shortest_digits_lt finite nearest.nonzero .even, size⟩

/-- In every row of every table, a decimal stands as a number. What is printed for that number
denotes the decimal if it is a whole number of 64 bits, or if it has at most fifteen digits and
22 places; else it can differ, by less than one part in `10 ^ 15`, and it does differ if the
decimal has more than seventeen digits. -/
theorem decimals_become_numbers (d : Fixed) :
    (∀ (server : Database.Server) (relation : Relation), ∀ cells ∈ relation.rows, ∀ name type text,
        ((name, type), some text) ∈ relation.columns.zip cells →
        (server.cellType type).decimal? text = some d →
        (server.row relation.columns cells).get? name = some (ofDecimal d)) ∧
      (∃ n, ofDecimal d = .number n) ∧
      (∃ value, (ofDecimal d).denoted? = some value ∧ |value - d.value| ≤ |d.value| / 10 ^ 15) ∧
      (Json.IsWhole d.value ∨ IsShort d.value → (ofDecimal d).denoted? = some d.value) ∧
      ((ofDecimal d).denoted? = some d.value → Json.IsWhole d.value ∨ HasDigits 17 d.value) := by
  refine ⟨?_, ?_⟩
  · intro server relation cells row name type text inside held
    rw [get?_row_of_column (relation.full cells row) inside, ← read_of_decimal? held]
    rfl
  · by_cases whole : Json.IsWhole d.value
    · obtain ⟨number, exact⟩ := denoted?_of_whole whole
      refine ⟨number, ⟨d.value, exact, ?_⟩, fun _ => exact, fun _ => .inl whole⟩
      rw [sub_self, abs_zero]
      positivity
    · obtain ⟨value, number, denoted, near, short, digits⟩ := exists_denoted whole
      refine ⟨number, ⟨value, denoted, near⟩, fun fits => ?_, fun same => .inr ?_⟩
      · rw [denoted, short (fits.resolve_left whole)]
      · rw [denoted, Option.some.injEq] at same
        rwa [same] at digits

/-- A price in a row of its own, and the greatest number of 64 bits. -/
theorem price_and_count_are_kept :
    (Server.row .postgres [("price", "NUMERIC")] [some "19.90"]).get? "price" =
        some (ofDecimal ⟨false, 199000, 4, by decide, by decide⟩) ∧
      (ofDecimal ⟨false, 199000, 4, by decide, by decide⟩).denoted? =
        some (Fixed.value ⟨false, 199000, 4, by decide, by decide⟩) ∧
      (ofDecimal ⟨false, 18446744073709551615, 0, by decide, by decide⟩).denoted? =
        some (Fixed.value ⟨false, 18446744073709551615, 0, by decide, by decide⟩) := by
  refine ⟨?_, ?_, ?_⟩
  · exact (decimals_become_numbers _).1 .postgres
      ⟨[("price", "NUMERIC")], [[some "19.90"]], by decide, by decide⟩ [some "19.90"] (by decide) "price"
      "NUMERIC" "19.90" (by decide) (by decide +kernel)
  · refine (decimals_become_numbers _).2.2.2.1 (.inr ⟨199, 1, by decide, by decide, ?_⟩)
    rw [Fixed.abs_value, Fixed.size]
    norm_num
  · refine (decimals_become_numbers _).2.2.2.1 (.inl ⟨18446744073709551615, by decide, ?_⟩)
    rw [Fixed.value, Fixed.size, signed]
    norm_num

/-- A share of nineteen digits loses the last two, although it could stand as a text. A charge
of ten digits gains some, since both its significand and the power of ten are rounded. -/
theorem share_and_charge_change :
    (Server.cellType .postgres "NUMERIC").decimal? "0.1234567890123456789" =
        some ⟨false, 12345678901234567890, 20, by decide, by decide⟩ ∧
      ((Server.cellType .postgres "NUMERIC").read "0.1234567890123456789").denoted? =
        some (12345678901234568 / 10 ^ 17) ∧
      Fixed.value ⟨false, 12345678901234567890, 20, by decide, by decide⟩ ≠ 12345678901234568 / 10 ^ 17 ∧
      (Server.cellType .postgres "NUMERIC").decimal? "0.0000000000000000001602176634" =
        some ⟨false, 1602176634, 28, by decide, by decide⟩ ∧
      ((Server.cellType .postgres "NUMERIC").read "0.0000000000000000001602176634").denoted? =
        some (16021766340000001 / 10 ^ 35) ∧
      Fixed.value ⟨false, 1602176634, 28, by decide, by decide⟩ ≠ 16021766340000001 / 10 ^ 35 := by
  decide +kernel

end Polyquery
