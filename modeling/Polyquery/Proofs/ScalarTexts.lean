import Mathlib.Data.Bool.AllAny
import Mathlib.Tactic.IntervalCases
import Polyquery.Proofs.LowerCase
import Polyquery.Proofs.Rounding
import Polyquery.Value.Normalize

/-! The characters of numbers and of the words for truth values. Whatever way a number
is printed, there are only digits, signs, a point and small letters in its text; so
nothing in it is a letter in upper case, a quote, a comma, a bracket or a wildcard. -/
namespace Polyquery
open Decimal

/-- The characters of numbers and of the words `true`, `false`, `null` and `inf`. -/
def scalarChars : List Char := "+-.0123456789aefilnrstu".toList

/-- A text in which every character is one of numbers and words. -/
def Scalar (text : List Char) : Prop := ∀ c ∈ text, c ∈ scalarChars

instance (text : List Char) : Decidable (Scalar text) :=
  List.decidableBAll (fun c => c ∈ scalarChars) text

section
variable {a b : List Char} {c : Char}

@[simp] theorem scalar_nil : Scalar [] := by simp [Scalar]

@[simp] theorem scalar_cons : Scalar (c :: a) ↔ c ∈ scalarChars ∧ Scalar a := List.forall_mem_cons

@[simp] theorem scalar_append : Scalar (a ++ b) ↔ Scalar a ∧ Scalar b := List.forall_mem_append

theorem Scalar.take (scalar : Scalar a) (n : Nat) : Scalar (a.take n) :=
  fun c inside => scalar c (List.mem_of_mem_take inside)

theorem Scalar.drop (scalar : Scalar a) (n : Nat) : Scalar (a.drop n) :=
  fun c inside => scalar c (List.mem_of_mem_drop inside)

theorem scalar_replicate (n : Nat) (one : c ∈ scalarChars) : Scalar (List.replicate n c) :=
  fun _ inside => (List.eq_of_mem_replicate inside) ▸ one

end

/-- The characters between the codes of zero and nine. -/
theorem mem_digits {c : Char} (least : 48 ≤ c.toNat) (most : c.toNat ≤ 57) :
    c ∈ "0123456789".toList := by
  have code : c = Char.ofNat c.toNat := (Char.ofNat_toNat c).symm
  generalize c.toNat = n at least most code
  rw [code]
  interval_cases n <;> decide

theorem isDigit_scalar {c : Char} (digit : c.isDigit = true) : c ∈ scalarChars := by
  have digits : Scalar "0123456789".toList := by decide
  simp only [Char.isDigit, Bool.and_eq_true, decide_eq_true_eq] at digit
  exact digits c (mem_digits (UInt32.le_iff_toNat_le.1 digit.1) (UInt32.le_iff_toNat_le.1 digit.2))

theorem scalar_toDigits (n : Nat) : Scalar (Nat.toDigits 10 n) :=
  fun _ inside => isDigit_scalar (Nat.isDigit_of_mem_toDigits (by decide) (by decide) inside)

/-- There is no letter in upper case among them. -/
theorem settled_scalar {text : List Char} (scalar : Scalar text) : ∀ c ∈ text, Text.Settled c := by
  have settled : ∀ c ∈ scalarChars, Text.Settled c :=
    List.all_iff_forall_prop.1 (by decide +kernel)
  exact fun c inside => settled c (scalar c inside)

/-! ## Numbers -/

theorem scalar_positional {digits : List Char} (scalar : Scalar digits) (keeps : Bool) (exponent : Int) :
    Scalar (positional keeps digits exponent) := by
  have zeros (n : Nat) : Scalar (List.replicate n '0') := scalar_replicate n (by decide)
  have point : '.' ∈ scalarChars := by decide
  have zero : '0' ∈ scalarChars := by decide
  unfold positional
  split
  · cases keeps <;> simp [scalar, zeros, point, zero]
  · dsimp only
    split
    · simp [scalar.take, scalar.drop, point]
    · simp [scalar, zeros, point, zero]

theorem scalar_scientific {digits : List Char} (scalar : Scalar digits) (order : Int) :
    Scalar (scientific digits order) := by
  have marks : 'e' ∈ scalarChars ∧ '-' ∈ scalarChars ∧ '+' ∈ scalarChars ∧ '.' ∈ scalarChars := by
    decide
  have power := scalar_toDigits order.natAbs
  unfold scientific
  split <;> split <;> simp_all

theorem scalar_magnitude (style : Style) (x : Double) : Scalar (style.magnitude x) := by
  unfold Style.magnitude
  split
  · split <;> decide
  · dsimp only
    split
    · exact scalar_positional (scalar_toDigits _) _ _
    · exact scalar_scientific (scalar_toDigits _) _

/-- The text of every number but the one that is none. -/
theorem scalar_print (style : Style) {x : Double} (number : x.isNaN = false) :
    Scalar (style.print x).toList := by
  have minus : '-' ∈ scalarChars := by decide
  have word : Scalar ['i', 'n', 'f'] := by decide
  have body : Scalar (if x.isFinite then style.magnitude x else ['i', 'n', 'f']) := by
    split
    · exact scalar_magnitude style x
    · exact word
  unfold Style.print
  simp only [number, Bool.false_eq_true, ↓reduceIte, String.toList_ofList]
  split
  · exact scalar_cons.2 ⟨minus, body⟩
  · exact body

/-- The digits of an integer, behind a sign if it is negative. -/
theorem toList_int (n : Int) : (toString n).toList =
    (if n < 0 then ['-'] else []) ++ Nat.toDigits 10 n.natAbs := by
  cases n with
  | ofNat n =>
    have text : toString (Int.ofNat n) = String.ofList (Nat.toDigits 10 n) := rfl
    rw [text, String.toList_ofList]
    rfl
  | negSucc n =>
    have text : toString (Int.negSucc n) = "-" ++ String.ofList (Nat.toDigits 10 (n + 1)) := rfl
    rw [text, if_pos (Int.negSucc_lt_zero n)]
    simp only [String.toList_append, String.toList_ofList]
    rfl

theorem scalar_int (n : Int) : Scalar (toString n).toList := by
  have minus : '-' ∈ scalarChars := by decide
  rw [toList_int]
  split <;> simp [minus, scalar_toDigits]

/-! ## Texts are not empty -/

theorem magnitude_ne_nil (style : Style) (x : Double) : style.magnitude x ≠ [] := by
  unfold Style.magnitude
  split
  · split <;> simp
  · dsimp only
    split
    · unfold positional
      split
      · simp
      · dsimp only
        split <;> simp
    · simp [scientific]

theorem print_ne_nil (style : Style) (x : Double) : (style.print x).toList ≠ [] := by
  unfold Style.print
  split
  · decide
  · have body : (if x.isFinite then style.magnitude x else ['i', 'n', 'f']) ≠ [] := by
      split
      · exact magnitude_ne_nil style x
      · simp
    rw [String.toList_ofList]
    split
    · simp
    · exact body

/-! ## Values -/

/-- No number that comes from JSON is none. -/
theorem isNaN_ofJson {json : Json} {x : Double} (float : Value.ofJson json = .float x) :
    x.isNaN = false := by
  cases json with
  | number n =>
    cases n with
    | int n inRange =>
      simp only [Value.ofJson, Value.ofNumber] at float
      split at float
      · cases float
      · cases float
        exact Double.isNaN_ofInt n
    | float y finite =>
      cases float
      exact Double.isNaN_of_isFinite finite
  | string s =>
    simp only [Value.ofJson, Value.ofText] at float
    split at float
    · cases float
    · split at float <;> cases float
  | null | bool | array | object => cases float

/-- A number or a truth value. -/
def Value.IsScalar : Value → Prop
  | .bool _ | .int _ => True
  | .float x => x.isNaN = false
  | .null | .string _ | .instant _ => False

theorem scalar_display {value : Value} (scalar : value.IsScalar) : Scalar value.display.toList := by
  cases value with
  | bool b => cases b <;> decide
  | int n => exact scalar_int _
  | float x => exact scalar_print _ scalar
  | null | string | instant => cases scalar

theorem display_ne_nil {value : Value} (scalar : value.IsScalar) : value.display.toList ≠ [] := by
  cases value with
  | bool b => cases b <;> decide
  | int n =>
    rw [Value.display, toList_int]
    simp
  | float x => exact print_ne_nil _ x
  | null | string | instant => cases scalar

end Polyquery
