import Mathlib.Data.List.DropRight
import Polyquery.Proofs.BoundKeys
import Polyquery.Proofs.ContainmentDocument

/-! Values that are bound again. A bound value is handed out as JSON, and may come back in
a filter. It is then bound as the same value: what was lost, was lost the first time. The
JSON is what it was as well, unless it was a placeholder of an open bound, a timestamp with
blanks around it, an integer beyond the signed 64 bits, or an array or object, of which only
the text is left. -/
namespace Polyquery
open Decimal Text Calendar

/-! ## Blanks -/

namespace Text

theorem trim_eq_rdropWhile (text : List Char) :
    trim text = (text.dropWhile isBlank).rdropWhile isBlank := rfl

/-- A trimmed text has no blanks to trim. -/
theorem trim_trim (text : List Char) : trim (trim text) = trim text := by
  have front : (trim text).dropWhile isBlank = trim text := by
    refine List.dropWhile_eq_self_iff.2 fun nonempty => ?_
    have inFront : trim text <+: text.dropWhile isBlank := List.rdropWhile_prefix isBlank _
    rw [inFront.getElem nonempty]
    exact List.dropWhile_get_zero_not isBlank text (nonempty.trans_le inFront.length_le)
  rw [trim_eq_rdropWhile (trim text), front, trim_eq_rdropWhile, List.rdropWhile_idempotent]

/-- Only blanks are trimmed. -/
theorem mem_trim {text : List Char} {c : Char} (inside : c ∈ text) (mark : isBlank c = false) :
    c ∈ trim text := by
  have kept {list : List Char} (inside : c ∈ list) : c ∈ list.dropWhile isBlank := by
    rw [← List.takeWhile_append_dropWhile (p := isBlank) (l := list), List.mem_append] at inside
    refine inside.resolve_left fun blank => ?_
    rw [List.mem_takeWhile_imp blank] at mark
    cases mark
  exact List.mem_reverse.2 (kept (List.mem_reverse.2 (kept inside)))

end Text

/-! ## Timestamps -/

namespace Calendar
namespace Instant

/-- The text that an instant was read from is read again, without blanks around it. -/
theorem readIso?_iso {text : String} {t : Instant} (read : readIso? text = some t) :
    readIso? t.iso = some t := by
  have printed : t.iso.toList = trim text.toList := by
    rw [iso_of_readIso? read, String.toList_ofList]
  rw [readIso?, printed, trim_trim]
  exact read

end Instant

/-- A character that no timestamp has in it or around it. -/
def IsStray (c : Char) : Prop :=
  isBlank c = false ∧ isDigit c = false ∧ c ∉ ['-', 'T', ':', '.', 'Z']

instance (c : Char) : Decidable (IsStray c) := inferInstanceAs (Decidable (_ ∧ _ ∧ _))

namespace Instant

/-- A strict timestamp is digits and marks between them. -/
theorem not_stray_of_readStrict? {text : List Char} {t : Instant} (read : readStrict? text = some t) :
    ∀ c ∈ text, ¬ IsStray c := by
  unfold readStrict? at read
  split at read
  · simp only [bind, Option.bind_eq_some_iff] at read
    obtain ⟨year, readYear, month, readMonth, day, readDay, hour, readHour, minute, readMinute,
      second, readSecond, milli, readMilli, made⟩ := read
    have digits {list : List Char} {n : Nat} (number : number? list = some n) :
        ∀ c ∈ list, isDigit c = true := by
      unfold number? at number
      split at number
      · next all => exact List.all_eq_true.1 all
      · cases number
    have ofYear := digits readYear
    have ofMonth := digits readMonth
    have ofDay := digits readDay
    have ofHour := digits readHour
    have ofMinute := digits readMinute
    have ofSecond := digits readSecond
    have ofMilli := digits readMilli
    simp_all [IsStray]
  · cases read

theorem readIso?_of_stray {text : String} {c : Char} (inside : c ∈ text.toList) (stray : IsStray c) :
    readIso? text = none := by
  cases read : readIso? text with
  | none => rfl
  | some t => exact absurd stray (not_stray_of_readStrict? read c (mem_trim inside stray.1))

end Instant

/-- A placeholder is spelled like a timestamp. -/
theorem closed_of_stray {text : String} {c : Char} (inside : c ∈ text.toList) (stray : IsStray c) :
    ¬ IsOpenBound text := by
  have all : ((openLow.toList ++ openHigh.toList).all fun d => decide ¬ IsStray d) = true := by
    decide +kernel
  have spelled (d : Char) (among : d ∈ openLow.toList ++ openHigh.toList) : ¬ IsStray d :=
    of_decide_eq_true (List.all_eq_true.1 all d among)
  rintro (rfl | rfl)
  · exact spelled c (List.mem_append_left _ inside) stray
  · exact spelled c (List.mem_append_right _ inside) stray

end Calendar

namespace Value

theorem ofText_dated {text : String} {t : Instant} (closed : ¬ IsOpenBound text)
    (read : Instant.readIso? text = some t) : ofText text = .instant t := by
  unfold IsOpenBound at closed
  rw [ofText, if_neg closed, read]

theorem ofText_undated {text : String} (closed : ¬ IsOpenBound text)
    (undated : Instant.readIso? text = none) : ofText text = .string text := by
  unfold IsOpenBound at closed
  rw [ofText, if_neg closed, undated]

/-- A text is bound as null, as an instant or as it is, and so it is bound again. -/
theorem ofJson_toJson_ofText (text : String) : ofJson (ofText text).toJson = ofText text := by
  by_cases opens : IsOpenBound text
  · rw [ofText_eq_null.2 opens]
    rfl
  · cases read : Instant.readIso? text with
    | some t =>
      rw [ofText_dated opens read, toJson, ofJson]
      exact ofText_dated t.iso_closed (Instant.readIso?_iso read)
    | none =>
      rw [ofText_undated opens read, toJson, ofJson]
      exact ofText_undated opens read

/-- The text of an array or object is bound as it is: its brackets are in no timestamp. -/
theorem ofText_compact {json : Json} (nested : (∃ items, json = .array items) ∨
    ∃ members, json = .object members) : ofText json.compact = .string json.compact := by
  obtain ⟨bracket, inside, stray⟩ : ∃ c ∈ json.compact.toList, IsStray c := by
    rcases nested with ⟨items, rfl⟩ | ⟨members, rfl⟩
    · exact ⟨'[', by simp [Json.compact, Json.compactChars], by decide⟩
    · exact ⟨'\x7b', by simp [Json.compact, Json.compactChars], by decide⟩
  exact ofText_undated (closed_of_stray inside stray) (Instant.readIso?_of_stray inside stray)

/-- A bound value that is handed out and comes back is bound as it was. -/
theorem ofJson_toJson_ofJson (json : Json) : ofJson (ofJson json).toJson = ofJson json := by
  cases json with
  | null | bool b => rfl
  | number n =>
    cases n with
    | int n inRange =>
      rw [Json.toJson_ofJson, Json.settled]
      split
      · rfl
      · next large =>
        have beyond : ¬(-0x8000000000000000 ≤ n ∧ n < 0x8000000000000000) := fun both => large both.2
        simp only [ofJson, ofNumber, if_neg beyond]
    | float x finite =>
      rw [Json.toJson_ofJson]
      rfl
  | string s => exact ofJson_toJson_ofText s
  | array items => exact ofText_compact (.inl ⟨items, rfl⟩)
  | object members => exact ofText_compact (.inr ⟨members, rfl⟩)

end Value

/-! ## What comes back -/

namespace Json

/-- The values that stand for nothing but themselves: all scalars but the integers beyond the
signed 64 bits, the placeholders of open bounds and the timestamps. -/
inductive IsPlain : Json → Prop where
  | null : IsPlain .null
  | bool (b : Bool) : IsPlain (.bool b)
  | integer (n : Int64) : IsPlain (.number (.ofInt64 n))
  | float (x : Double) (finite : x.isFinite = true) : IsPlain (.number (.float x finite))
  | text {s : String} (closed : ¬ IsOpenBound s) (undated : Instant.readIso? s = none) :
    IsPlain (.string s)

/-- Plain values come back as they are. -/
theorem toJson_ofJson_of_isPlain {json : Json} (plain : json.IsPlain) :
    (Value.ofJson json).toJson = json := by
  cases plain with
  | null | bool b => rfl
  | integer n =>
    have back := congrArg Value.toJson (Value.ofJson_toJson_int n)
    exact back
  | float x finite => exact dif_pos finite
  | text closed undated =>
    rw [Value.ofJson, Value.ofText_undated closed undated]
    rfl

/-- Of the other values, only timestamps do that have no blanks around them. -/
theorem isPlain_of_toJson_ofJson {json : Json} (kept : (Value.ofJson json).toJson = json) :
    json.IsPlain ∨ ∃ t : Instant, json = .string t.iso ∧ Instant.readIso? t.iso = some t := by
  cases json with
  | null => exact .inl .null
  | bool b => exact .inl (.bool b)
  | number n =>
    cases n with
    | int n inRange =>
      rw [toJson_ofJson, settled] at kept
      split at kept
      · next small =>
        have back : (Int64.ofInt n).toInt = n :=
          Int64.toInt_ofInt_of_le (by simpa using inRange.1) (by simpa using small)
        have plain := IsPlain.integer (Int64.ofInt n)
        simp only [Number.ofInt64, back] at plain
        exact .inl plain
      · cases kept
    | float x finite => exact .inl (.float x finite)
  | string s =>
    rw [Value.ofJson] at kept
    by_cases opens : IsOpenBound s
    · rw [Value.ofText_eq_null.2 opens] at kept
      cases kept
    · cases read : Instant.readIso? s with
      | none => exact .inl (.text opens read)
      | some t =>
        rw [Value.ofText_dated opens read] at kept
        exact .inr ⟨t, kept.symm, Instant.readIso?_iso read⟩
  | array items => cases kept
  | object members => cases kept

end Json

/-- Binding is stable, and it keeps what it says: what is bound, handed out and bound again is
the same value, and what is handed out is what was bound exactly for plain values and for
timestamps without blanks around them. -/
theorem bound_values_are_stable (json : Json) :
    Value.ofJson (Value.ofJson json).toJson = Value.ofJson json ∧
      ((Value.ofJson json).toJson = json ↔
        json.IsPlain ∨ ∃ t : Instant, json = .string t.iso ∧ Instant.readIso? t.iso = some t) := by
  refine ⟨Value.ofJson_toJson_ofJson json, Json.isPlain_of_toJson_ofJson, ?_⟩
  rintro (plain | ⟨t, rfl, read⟩)
  · exact Json.toJson_ofJson_of_isPlain plain
  · rw [Value.ofJson, Value.ofText_dated t.iso_closed read]
    rfl

/-- A padded timestamp comes back trimmed, and then it stays. -/
example :
    (Value.ofJson (.string " 2024-02-29T23:59:60.999Z")).toJson = .string "2024-02-29T23:59:60.999Z" ∧
      (Value.ofJson (.string "2024-02-29T23:59:60.999Z")).toJson = .string "2024-02-29T23:59:60.999Z" := by
  decide +kernel

end Polyquery
