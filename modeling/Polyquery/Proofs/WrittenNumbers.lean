import Polyquery.Decimal.Printed
import Polyquery.Json.Reader
import Polyquery.Proofs.Reading
import Polyquery.Proofs.ShortestDigits
import Polyquery.Proofs.Timestamps

/-! Numbers as they are written. Every printed number, in whatever style, is a run of
digits that begins with a zero only if it is a zero alone, digits behind a point, and a
power of ten, the last two if there are any. That is what the reader of numerals and the
reader of JSON take apart. Printed shortest digits keep their value in every style, so a
printed number is read as itself by a reader that rounds to the nearest. -/
namespace Polyquery.Decimal
open Text Sql

/-! ## Runs of digits -/

theorem digitsValue_append (a b : List Char) :
    digitsValue (a ++ b) = digitsValue a * 10 ^ b.length + digitsValue b := by
  induction b using List.reverseRecOn with
  | nil => simp [digitsValue]
  | append_singleton b c ih =>
    rw [← List.append_assoc, Calendar.digitsValue_concat, Calendar.digitsValue_concat, ih,
      List.length_append, List.length_singleton, pow_succ]
    ring

theorem digitsValue_zeros (n : Nat) : digitsValue (List.replicate n '0') = 0 := by
  induction n with
  | zero => rfl
  | succ n ih => rw [List.replicate_succ', Calendar.digitsValue_concat, ih]; rfl

theorem zeros_all_isDigit (n : Nat) : (List.replicate n '0').all isDigit = true := by
  simp [isDigit]

/-- The digits of a number other than zero do not begin with a zero. -/
theorem toDigits_leads {n : Nat} (nonzero : n ≠ 0) :
    ∃ c rest, Nat.toDigits 10 n = c :: rest ∧ c ≠ '0' := by
  induction n using Nat.strongRecOn with
  | ind n ih =>
    by_cases single : n < 10
    · refine ⟨n.digitChar, [], Nat.toDigits_of_lt_base single, ?_⟩
      have leads : ∀ d < 10, d ≠ 0 → d.digitChar ≠ '0' := by decide
      exact leads n single nonzero
    · obtain ⟨c, rest, front, leads⟩ := ih (n / 10) (by omega) (by omega)
      have longer := Nat.toDigits_append_toDigits (b := 10) (n := n / 10) (d := n % 10) (by decide)
        (by omega) (by omega)
      rw [Nat.div_add_mod, front] at longer
      exact ⟨c, _, longer.symm, leads⟩

/-! ## Written numbers -/

/-- The parts of a written number without its sign: digits, the digits behind a point,
none without a point, and the power of ten behind its mark. -/
structure Written where
  whole : List Char
  fraction : List Char
  power : Option Int
  wholeDigits : whole.all isDigit = true
  fractionDigits : fraction.all isDigit = true
  /-- A zero stands at the front only if it stands alone. -/
  leads : whole = ['0'] ∨ ∃ c rest, whole = c :: rest ∧ c ≠ '0'

namespace Written

/-- The mark of the power of ten with its sign and digits. -/
def powerText : Option Int → List Char
  | none => []
  | some p => 'e' :: (if p < 0 then '-' else '+') :: Nat.toDigits 10 p.natAbs

def fractionText : List Char → List Char
  | [] => []
  | digits => '.' :: digits

def text (w : Written) : List Char := w.whole ++ (fractionText w.fraction ++ powerText w.power)

/-- The sign in front of a number. -/
def sign (negative : Bool) : List Char := if negative then ['-'] else []

/-- The numeral that the parts spell. -/
def numeral (w : Written) (negative : Bool) : Numeral :=
  .ofParts negative w.whole w.fraction (w.power.getD 0)

/-- A text that does not go on with a number in front of it. -/
def Ends (text : List Char) : Prop :=
  ∀ c ∈ text.head?, isDigit c = false ∧ c ≠ '.' ∧ c ≠ 'e' ∧ c ≠ 'E'

theorem whole_digit (w : Written) :
    ∃ c more, w.whole = c :: more ∧ isDigit c = true ∧ w.text =
      c :: (more ++ (fractionText w.fraction ++ powerText w.power)) := by
  have digits := w.wholeDigits
  unfold text
  rcases w.leads with alone | ⟨c, more, shape, _⟩
  · exact ⟨'0', [], alone, by decide, by rw [alone]; rfl⟩
  · rw [shape, List.all_cons, Bool.and_eq_true] at digits
    exact ⟨c, more, shape, digits.1, by rw [shape]; rfl⟩

theorem takeSign_text (w : Written) (negative : Bool) :
    takeSign (sign negative ++ w.text) = (negative, w.text) := by
  cases negative with
  | true => rfl
  | false =>
    obtain ⟨c, more, _, digit, shape⟩ := w.whole_digit
    have minus : c ≠ '-' := by
      rintro rfl
      cases digit
    have plus : c ≠ '+' := by
      rintro rfl
      cases digit
    rw [sign, shape]
    simp [takeSign, minus, plus]

/-- The sign of a power in front of its digits. -/
theorem takeSign_power (p : Int) (rest : List Char) :
    takeSign ((if p < 0 then '-' else '+') :: rest) = (decide (p < 0), rest) := by
  by_cases below : p < 0 <;> simp [takeSign, below]

/-- The sign and the size of a power give it back. -/
theorem signed_size (p : Int) :
    (if decide (p < 0) = true then -((digitsValue (Nat.toDigits 10 p.natAbs) : Nat) : Int)
      else (digitsValue (Nat.toDigits 10 p.natAbs) : Nat)) = p := by
  rw [digitsValue_toDigits]
  simp only [decide_eq_true_eq]
  split <;> omega

theorem readPower_text (power : Option Int) : readPower (powerText power) = some (power.getD 0) := by
  cases power with
  | none => rfl
  | some p =>
    have digits := toDigits_all_isDigit p.natAbs
    have some : (Nat.toDigits 10 p.natAbs).isEmpty = false := by simp [Nat.toDigits_ne_nil]
    simp only [powerText, readPower, takeSign_power, digits, some, signed_size]
    rfl

theorem powerText_ends (power : Option Int) :
    ∀ c ∈ (powerText power).head?, isDigit c = false ∧ c ≠ '.' := by
  cases power with
  | none => simp [powerText]
  | some p =>
    simp only [powerText, List.head?_cons, Option.mem_some_iff, forall_eq']
    decide

theorem behind_whole_ends (w : Written) :
    ∀ c ∈ (fractionText w.fraction ++ powerText w.power).head?, isDigit c = false := by
  cases w.fraction with
  | nil => exact fun c inside => (powerText_ends w.power c inside).1
  | cons d ds =>
    simp only [fractionText, List.cons_append, List.head?_cons, Option.mem_some_iff, forall_eq']
    decide

/-- A word begins with a letter. -/
theorem lowerAscii_ne {c d : Char} (digit : isDigit c = true) (letter : isDigit d = false)
    (more others : List Char) : lowerAscii (String.ofList (c :: more)) ≠ String.ofList (d :: others) := by
  intro same
  have bounds := Calendar.isDigit_iff.1 digit
  have heads := congrArg String.toList same
  simp only [lowerAscii, String.toList_ofList, List.map_cons, List.cons.injEq] at heads
  have kept : c.toLower = c := by
    refine dif_neg fun capital => ?_
    have least : 65 ≤ c.toNat := UInt32.le_iff_toNat_le.1 capital.1
    omega
  rw [← heads.1, kept, digit] at letter
  cases letter

/-- The reader of numerals reads a written number. -/
theorem read?_text (w : Written) (negative : Bool) :
    FloatText.read? (sign negative ++ w.text) = some (.numeral (w.numeral negative)) := by
  obtain ⟨c, more, whole, digit, shape⟩ := w.whole_digit
  have inf : lowerAscii (String.ofList w.text) ≠ "inf" := shape ▸ lowerAscii_ne digit (by decide) _ ['n', 'f']
  have infinity : lowerAscii (String.ofList w.text) ≠ "infinity" :=
    shape ▸ lowerAscii_ne digit (by decide) _ ['n', 'f', 'i', 'n', 'i', 't', 'y']
  have nan : lowerAscii (String.ofList w.text) ≠ "nan" := shape ▸ lowerAscii_ne digit (by decide) _ ['a', 'n']
  have body : takeSign (sign negative ++ w.text) = (negative, w.text) := w.takeSign_text negative
  obtain ⟨run, behind⟩ := takeWhile_run (List.all_eq_true.1 w.wholeDigits) w.behind_whole_ends
  have front : w.text.takeWhile isDigit = w.whole := run
  have rest : w.text.dropWhile isDigit = fractionText w.fraction ++ powerText w.power := behind
  have some : w.whole.isEmpty = false := by simp [whole]
  have power := readPower_text w.power
  simp only [FloatText.read?, body, inf, infinity, nan, Bool.or_self, decide_false, Bool.false_eq_true,
    ↓reduceIte, front, rest, some, Bool.false_and, numeral]
  cases digits : w.fraction with
  | nil =>
    cases exponent : w.power with
    | none => rfl
    | some p =>
      rw [exponent] at power
      exact congrArg (Option.map _) power
  | cons d ds =>
    have all := w.fractionDigits
    rw [digits] at all
    obtain ⟨run, behind⟩ := takeWhile_run (List.all_eq_true.1 all) fun c inside =>
      (powerText_ends w.power c inside).1
    simp only [fractionText, List.cons_append] at run behind ⊢
    rw [run, behind, power]
    rfl

/-! ## Numbers of JSON -/

variable {rest : List Char}

/-- The digits behind the point, none without a point. -/
def fraction? (w : Written) : Option (List Char) := if w.fraction = [] then none else some w.fraction

theorem readExponent_text (power : Option Int) (ends : Ends rest) :
    Json.readExponent (powerText power ++ rest) = some (power, rest) := by
  cases power with
  | none =>
    cases rest with
    | nil => rfl
    | cons c more =>
      obtain ⟨_, _, small, capital⟩ := ends c rfl
      simp [powerText, Json.readExponent, small, capital]
  | some p =>
    obtain ⟨run, behind⟩ := takeWhile_run (List.all_eq_true.1 (toDigits_all_isDigit p.natAbs))
      fun c inside => (ends c inside).1
    have size := signed_size p
    simp only [powerText, List.cons_append, Json.readExponent, takeSign_power, Json.takeDigits, run, behind]
    cases digits : Nat.toDigits 10 p.natAbs with
    | nil => exact absurd digits Nat.toDigits_ne_nil
    | cons d ds =>
      rw [digits] at size
      exact congrArg (fun power => some (some power, rest)) size

theorem readFraction_text (w : Written) (rest : List Char)
    (ends : ∀ c ∈ rest.head?, isDigit c = false ∧ c ≠ '.') :
    Json.readFraction (fractionText w.fraction ++ rest) = some (w.fraction?, rest) := by
  have all := w.fractionDigits
  unfold fraction?
  cases digits : w.fraction with
  | nil =>
    cases rest with
    | nil => rfl
    | cons c more =>
      have point := (ends c rfl).2
      simp [fractionText, Json.readFraction, point]
  | cons d ds =>
    rw [digits] at all
    obtain ⟨run, behind⟩ := takeWhile_run (List.all_eq_true.1 all) fun c inside => (ends c inside).1
    rw [List.cons_append] at run behind
    simp [fractionText, Json.readFraction, Json.takeDigits, run, behind]

theorem readWhole_text (w : Written) (rest : List Char) (ends : ∀ c ∈ rest.head?, isDigit c = false) :
    Json.readWhole (w.whole ++ rest) = some (w.whole, rest) := by
  obtain ⟨run, behind⟩ := takeWhile_run (List.all_eq_true.1 w.wholeDigits) ends
  have cut : Json.takeDigits (w.whole ++ rest) = (w.whole, rest) := by rw [Json.takeDigits, run, behind]
  rw [Json.readWhole, cut]
  rcases w.leads with alone | ⟨c, more, shape, nonzero⟩
  · rw [alone]
    rfl
  · rw [shape]
    split <;> simp_all

theorem ends_append {front : List Char} {holds : Char → Prop} (inFront : ∀ c ∈ front.head?, holds c)
    (behind : ∀ c ∈ rest.head?, holds c) : ∀ c ∈ (front ++ rest).head?, holds c := by
  cases front with
  | nil => exact behind
  | cons d more => exact inFront

/-- The reader of JSON takes a written number apart, whatever ends it. -/
theorem readNumber_text (w : Written) (negative : Bool) (ends : Ends rest) :
    Json.readNumber (sign negative ++ (w.text ++ rest)) =
      some (Json.Number.ofNumeral? negative w.whole w.fraction? w.power, rest) := by
  have whole := w.readWhole_text (fractionText w.fraction ++ powerText w.power ++ rest)
    (ends_append w.behind_whole_ends fun c inside => (ends c inside).1)
  have fraction := w.readFraction_text (powerText w.power ++ rest)
    (ends_append (powerText_ends w.power) fun c inside => ⟨(ends c inside).1, (ends c inside).2.1⟩)
  have power := readExponent_text w.power ends
  have parts : w.text ++ rest = w.whole ++ (fractionText w.fraction ++ powerText w.power ++ rest) := by
    simp [text]
  rw [List.append_assoc] at whole parts
  -- Without a sign the digits are not taken for one.
  have front : ∀ more, w.text ++ rest ≠ '-' :: more := by
    obtain ⟨c, tail, _, digit, shape⟩ := w.whole_digit
    rw [shape, List.cons_append]
    rintro more same
    obtain ⟨rfl, _⟩ := List.cons.inj same
    cases digit
  unfold Json.readNumber
  cases negative with
  | true =>
    simp only [sign, ↓reduceIte, List.cons_append, List.nil_append, parts, whole, fraction, power,
      Option.bind_eq_bind, Option.bind_some]
  | false =>
    simp only [sign, Bool.false_eq_true, ↓reduceIte, List.nil_append]
    simp only [parts, whole, fraction, power, Option.bind_eq_bind, Option.bind_some]

end Written

/-! ## Printed numbers -/

/-- A natural number as it is written. -/
def Written.ofNat (n : Nat) : Written where
  whole := Nat.toDigits 10 n
  fraction := []
  power := none
  wholeDigits := toDigits_all_isDigit n
  fractionDigits := rfl
  leads := by
    by_cases zero : n = 0
    · exact .inl (zero ▸ rfl)
    · exact .inr (toDigits_leads zero)

theorem Written.value_numeral (w : Written) (negative : Bool) : (w.numeral negative).value =
    digitsValue (w.whole ++ w.fraction) * 10 ^ (w.power.getD 0 - w.fraction.length) := rfl

section
variable {n : Nat} (nonzero : n ≠ 0)
include nonzero

/-- Digits with zeros behind them. -/
theorem exists_whole (keeps : Bool) (zeros : Nat) :
    ∃ w : Written, w.text = positional keeps (Nat.toDigits 10 n) zeros ∧
      ∀ negative, (w.numeral negative).value = n * 10 ^ (zeros : Int) := by
  obtain ⟨c, more, shape, leads⟩ := toDigits_leads nonzero
  refine ⟨⟨Nat.toDigits 10 n ++ List.replicate zeros '0', if keeps then ['0'] else [], none, ?_, ?_,
    .inr ⟨c, more ++ List.replicate zeros '0', by rw [shape]; rfl, leads⟩⟩, ?_, ?_⟩
  · rw [List.all_append, toDigits_all_isDigit, zeros_all_isDigit, Bool.true_and]
  · cases keeps <;> rfl
  · cases keeps <;> simp [Written.text, Written.fractionText, Written.powerText, positional]
  · intro negative
    have front : digitsValue (Nat.toDigits 10 n ++ List.replicate zeros '0') = n * 10 ^ zeros := by
      rw [digitsValue_append, digitsValue_zeros, digitsValue_toDigits, List.length_replicate, Nat.add_zero]
    rw [Written.value_numeral]
    cases keeps with
    | true =>
      have zero : digitsValue ['0'] = 0 := rfl
      simp only [↓reduceIte, digitsValue_append (_ ++ _), front, zero, List.length_singleton,
        Option.getD_none]
      push_cast
      norm_num
      ring
    | false =>
      simp only [Bool.false_eq_true, ↓reduceIte, List.append_nil, front, List.length_nil,
        Option.getD_none]
      push_cast
      norm_num

/-- Digits with a point between them. -/
theorem exists_point_inside {places : Nat} (some : 0 < places)
    (inside : places < (Nat.toDigits 10 n).length) :
    ∃ w : Written, w.text = (Nat.toDigits 10 n).take ((Nat.toDigits 10 n).length - places) ++
        '.' :: (Nat.toDigits 10 n).drop ((Nat.toDigits 10 n).length - places) ∧
      ∀ negative, (w.numeral negative).value = n * 10 ^ (-(places : Int)) := by
  obtain ⟨c, more, shape, leads⟩ := toDigits_leads nonzero
  have all := toDigits_all_isDigit n
  have value := digitsValue_toDigits n
  generalize Nat.toDigits 10 n = digits at *
  obtain ⟨k, front⟩ : ∃ k, digits.length - places = k + 1 := ⟨digits.length - places - 1, by omega⟩
  have behind : (digits.drop (k + 1)).length = places := by
    rw [List.length_drop]
    omega
  rw [front]
  refine ⟨⟨digits.take (k + 1), digits.drop (k + 1), none, ?_, ?_,
    .inr ⟨c, more.take k, by rw [shape]; rfl, leads⟩⟩, ?_, ?_⟩
  · rw [List.all_eq_true] at all ⊢
    exact fun d member => all d (List.mem_of_mem_take member)
  · rw [List.all_eq_true] at all ⊢
    exact fun d member => all d (List.mem_of_mem_drop member)
  · simp only [Written.text, Written.powerText, List.append_nil]
    cases tail : digits.drop (k + 1) with
    | nil =>
      rw [tail, List.length_nil] at behind
      omega
    | cons d ds => rfl
  · intro negative
    simp only [Written.value_numeral, List.take_append_drop, value, behind, Option.getD_none, zero_sub]

/-- Digits behind a zero and a point, and further zeros. -/
theorem exists_point_in_front {places : Nat} (outside : (Nat.toDigits 10 n).length ≤ places) :
    ∃ w : Written, w.text = '0' :: '.' ::
        List.replicate (places - (Nat.toDigits 10 n).length) '0' ++ Nat.toDigits 10 n ∧
      ∀ negative, (w.numeral negative).value = n * 10 ^ (-(places : Int)) := by
  obtain ⟨c, more, shape, _⟩ := toDigits_leads nonzero
  have all := toDigits_all_isDigit n
  have value := digitsValue_toDigits n
  generalize Nat.toDigits 10 n = digits at *
  refine ⟨⟨['0'], List.replicate (places - digits.length) '0' ++ digits, none, rfl, ?_, .inl rfl⟩, ?_, ?_⟩
  · rw [List.all_append, all, zeros_all_isDigit, Bool.true_and]
  · simp only [Written.text, Written.powerText, List.append_nil]
    cases tail : List.replicate (places - digits.length) '0' ++ digits with
    | nil => simp [shape] at tail
    | cons d ds => simp [Written.fractionText, tail]
  · intro negative
    have whole : digitsValue ('0' :: (List.replicate (places - digits.length) '0' ++ digits)) = n := by
      rw [← List.cons_append, ← List.replicate_succ, digitsValue_append, digitsValue_zeros, value,
        Nat.zero_mul, Nat.zero_add]
    have length : (List.replicate (places - digits.length) '0' ++ digits).length = places := by
      rw [List.length_append, List.length_replicate]
      omega
    simp only [Written.value_numeral, List.singleton_append, whole, length, Option.getD_none, zero_sub]

theorem exists_positional (keeps : Bool) (exponent : Int) :
    ∃ w : Written, w.text = positional keeps (Nat.toDigits 10 n) exponent ∧
      ∀ negative, (w.numeral negative).value = n * 10 ^ exponent := by
  by_cases up : 0 ≤ exponent
  · obtain ⟨k, rfl⟩ := Int.eq_ofNat_of_zero_le up
    exact exists_whole nonzero keeps k
  · obtain ⟨places, rfl⟩ : ∃ places : Nat, exponent = -(places : Int) := ⟨exponent.natAbs, by omega⟩
    have size : (- -(places : Int)).toNat = places := by omega
    simp only [positional, if_neg up, size]
    by_cases inside : places < (Nat.toDigits 10 n).length
    · rw [if_pos inside]
      exact exists_point_inside nonzero (by omega) inside
    · rw [if_neg inside]
      exact exists_point_in_front nonzero (Nat.not_lt.1 inside)

/-- One digit in front of the point, and a power of ten. -/
theorem exists_scientific (exponent : Int) :
    ∃ w : Written, w.text = scientific (Nat.toDigits 10 n)
        (exponent + (Nat.toDigits 10 n).length - 1) ∧
      ∀ negative, (w.numeral negative).value = n * 10 ^ exponent := by
  obtain ⟨c, more, shape, leads⟩ := toDigits_leads nonzero
  have all := toDigits_all_isDigit n
  have value := digitsValue_toDigits n
  generalize Nat.toDigits 10 n = digits at *
  subst shape
  rw [List.all_cons, Bool.and_eq_true] at all
  refine ⟨⟨[c], more, some (exponent + (c :: more).length - 1), ?_, all.2,
    .inr ⟨c, [], rfl, leads⟩⟩, ?_, ?_⟩
  · rw [List.all_cons, all.1]
    rfl
  · cases more <;> rfl
  · intro negative
    have order : exponent + (c :: more).length - 1 - more.length = exponent := by
      rw [List.length_cons]
      omega
    simp only [Written.value_numeral, List.singleton_append, value, Option.getD_some, order]

end

/-- The magnitude of a number other than zero, in any style, is a written number of the value
of its shortest digits. -/
theorem exists_magnitude_value (style : Style) {x : Double} (finite : x.isFinite = true)
    (nonzero : x.magnitude.1 ≠ 0) : ∃ w : Written, w.text = style.magnitude x ∧
      ∀ negative, (w.numeral negative).value = (x.shortest style.tie).value := by
  have range := (Double.round_shortest finite nonzero style.tie).1
  have digits : (x.shortest style.tie).digits ≠ 0 := by
    intro none
    rw [Shortest.value, none, Nat.cast_zero, zero_mul] at range
    exact range.not_gt (two_zpow_pos _)
  rw [Style.magnitude, if_neg nonzero]
  dsimp only
  split
  · exact exists_positional digits style.keepsFraction (x.shortest style.tie).exponent
  · exact exists_scientific digits (x.shortest style.tie).exponent

/-- The magnitude of a number in any style is a written number that is read as the number. -/
theorem exists_magnitude (style : Style) {x : Double} (finite : x.isFinite = true) :
    ∃ w : Written, w.text = style.magnitude x ∧ (w.numeral x.negative).toDouble? = some x := by
  by_cases zero : x.magnitude.1 = 0
  · rw [Style.magnitude, if_pos zero]
    refine ⟨⟨['0'], if style.keepsFraction then ['0'] else [], none, rfl, ?_, .inl rfl⟩, ?_, ?_⟩
    · cases style.keepsFraction <;> rfl
    · cases style.keepsFraction <;> rfl
    · refine Double.toDouble?_of_zero zero rfl ?_
      cases style.keepsFraction <;> rfl
  · obtain ⟨w, text, value⟩ := exists_magnitude_value style finite zero
    exact ⟨w, text, Double.toDouble?_of_shortest finite zero rfl (value _)⟩

/-- A finite number is printed with its sign in front of its magnitude. -/
theorem print_of_magnitude {style : Style} {x : Double} (finite : x.isFinite = true) {w : Written}
    (text : w.text = style.magnitude x) :
    (style.print x).toList = Written.sign x.negative ++ w.text := by
  rw [Style.print, Double.isNaN_of_isFinite finite, finite, text]
  cases x.negative <;> simp [Written.sign]

/-- A finite number is printed as a written number behind its sign. -/
theorem exists_print (style : Style) {x : Double} (finite : x.isFinite = true) :
    ∃ w : Written, (style.print x).toList = Written.sign x.negative ++ w.text ∧
      (w.numeral x.negative).toDouble? = some x := by
  obtain ⟨w, text, read⟩ := exists_magnitude style finite
  exact ⟨w, print_of_magnitude finite text, read⟩

/-- What is printed for a number, in any style, is a numeral, and that number is the
nearest to it. -/
theorem read?_print (style : Style) {x : Double} (finite : x.isFinite = true) :
    ∃ n : Numeral, FloatText.read? (style.print x).toList = some (.numeral n) ∧ n.toDouble? = some x := by
  obtain ⟨w, text, read⟩ := exists_print style finite
  exact ⟨_, text ▸ w.read?_text x.negative, read⟩

end Polyquery.Decimal
