import Polyquery.Decimal.Double
import Polyquery.Keyed.Record

/-! JSON values. Integers and fractional numbers are told apart by spelling, and
the members of an object keep their order. -/
namespace Polyquery
open Decimal

/-- The integers a JSON number can hold exactly: those of 64 bits, signed or
unsigned. -/
def Json.InRange (n : Int) : Prop := -0x8000000000000000 ≤ n ∧ n < 0x10000000000000000

instance (n : Int) : Decidable (Json.InRange n) := inferInstanceAs (Decidable (_ ∧ _))

/-- A number of a JSON value. -/
inductive Json.Number where
  | int (n : Int) (inRange : Json.InRange n)
  | float (x : Double) (finite : x.isFinite = true)
  deriving DecidableEq

/-- A JSON value. -/
inductive Json where
  | null
  | bool (b : Bool)
  | number (n : Json.Number)
  | string (s : String)
  | array (items : List Json)
  | object (members : List (String × Json))
  deriving Inhabited

namespace Json

mutual
/-- Equality of values. -/
def same : Json → Json → Bool
  | .null, .null => true
  | .bool a, .bool b => a == b
  | .number a, .number b => a == b
  | .string a, .string b => a == b
  | .array a, .array b => sameItems a b
  | .object a, .object b => sameMembers a b
  | _, _ => false

/-- Equality of lists of values. -/
def sameItems : List Json → List Json → Bool
  | [], [] => true
  | a :: as, b :: bs => same a b && sameItems as bs
  | _, _ => false

/-- Equality of lists of members. -/
def sameMembers : List (String × Json) → List (String × Json) → Bool
  | [], [] => true
  | (k, a) :: as, (l, b) :: bs => k == l && same a b && sameMembers as bs
  | _, _ => false
end

mutual
theorem eq_of_same : ∀ {a b : Json}, same a b = true → a = b
  | .null, b, h => by cases b <;> simp_all [same]
  | .bool x, b, h => by cases b <;> simp_all [same]
  | .number x, b, h => by cases b <;> simp_all [same]
  | .string x, b, h => by cases b <;> simp_all [same]
  | .array x, b, h => by
    cases b <;> simp only [same, Bool.false_eq_true] at h
    rw [eq_of_sameItems h]
  | .object x, b, h => by
    cases b <;> simp only [same, Bool.false_eq_true] at h
    rw [eq_of_sameMembers h]

theorem eq_of_sameItems : ∀ {a b : List Json}, sameItems a b = true → a = b
  | [], b, h => by cases b <;> simp_all [sameItems]
  | x :: xs, b, h => by
    cases b <;> simp only [sameItems, Bool.false_eq_true, Bool.and_eq_true] at h
    rw [eq_of_same h.1, eq_of_sameItems h.2]

theorem eq_of_sameMembers : ∀ {a b : List (String × Json)}, sameMembers a b = true → a = b
  | [], b, h => by cases b <;> simp_all [sameMembers]
  | (k, x) :: xs, b, h => by
    cases b <;> simp only [sameMembers, Bool.false_eq_true, Bool.and_eq_true, beq_iff_eq] at h
    next head tail =>
      obtain ⟨l, y⟩ := head
      simp only [Prod.mk.injEq, List.cons.injEq]
      exact ⟨⟨h.1.1, eq_of_same h.1.2⟩, eq_of_sameMembers h.2⟩
end

mutual
theorem same_refl : ∀ a : Json, same a a = true
  | .null => rfl
  | .bool _ => by simp [same]
  | .number _ => by simp [same]
  | .string _ => by simp [same]
  | .array items => by simpa [same] using sameItems_refl items
  | .object members => by simpa [same] using sameMembers_refl members

theorem sameItems_refl : ∀ a : List Json, sameItems a a = true
  | [] => rfl
  | x :: xs => by simp [sameItems, same_refl x, sameItems_refl xs]

theorem sameMembers_refl : ∀ a : List (String × Json), sameMembers a a = true
  | [] => rfl
  | (k, x) :: xs => by simp [sameMembers, same_refl x, sameMembers_refl xs]
end

instance : DecidableEq Json := fun a b =>
  if h : same a b = true then isTrue (eq_of_same h)
  else isFalse fun equal => h (equal ▸ same_refl a)

def isNull : Json → Bool
  | .null => true
  | _ => false

/-- A 64-bit signed integer as a JSON number. -/
def Number.ofInt64 (n : Int64) : Number :=
  .int n.toInt ⟨Int64.le_toInt n, Int.lt_trans (Int64.toInt_lt n) (by decide)⟩

/-- The integer as a JSON number, when it is in range. -/
def Number.ofInt? (n : Int) : Option Number :=
  if inRange : InRange n then some (.int n inRange) else none

/-- A binary64 number as a JSON value; JSON has no infinity and no NaN, so
those become null. -/
def ofDouble (x : Double) : Json :=
  if finite : x.isFinite = true then .number (.float x finite) else .null

/-- The object whose members are the entries of a record. -/
def ofRecord (record : Record Json) : Json := .object record.entries

end Json

/-- A row of a table or of a result: a value under each column name. -/
abbrev Row := Record Json

end Polyquery
