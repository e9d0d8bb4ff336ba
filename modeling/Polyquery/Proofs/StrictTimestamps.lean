import Mathlib.Data.List.Basic
import Mathlib.Data.List.TakeWhile
import Mathlib.Tactic.IntervalCases
import Polyquery.Proofs.Timestamps
import Polyquery.Text.Split

/-! The language of strict timestamps. It is said here by its spelling: runs of digits with
marks between them, whose numbers name a day of the Gregorian calendar and a time of that day,
leap seconds included. Exactly these texts are read, blanks around them apart; each is read as
the instant it names and printed as it was spelled, so no two of them are the same instant. -/
namespace Polyquery
open Text Decimal

/-! ## Blanks around a text -/

namespace Text

/-- What is left of a text without the blanks around it. -/
structure IsInside (inside text : List Char) : Prop where
  around : ∃ front behind, text = front ++ (inside ++ behind) ∧
    (∀ c ∈ front, isBlank c = true) ∧ ∀ c ∈ behind, isBlank c = true
  first : ∀ c ∈ inside.head?, isBlank c = false
  last : ∀ c ∈ inside.getLast?, isBlank c = false

theorem isInside_trim (text : List Char) : IsInside (trim text) text := by
  have reversed := List.takeWhile_append_dropWhile (p := isBlank) (l := (text.dropWhile isBlank).reverse)
  have cut : text.dropWhile isBlank =
      trim text ++ ((text.dropWhile isBlank).reverse.takeWhile isBlank).reverse := by
    rw [trim, ← List.reverse_append, reversed, List.reverse_reverse]
  refine ⟨⟨text.takeWhile isBlank, ((text.dropWhile isBlank).reverse.takeWhile isBlank).reverse,
    ?_, ?_, ?_⟩, ?_, ?_⟩
  · rw [← cut, List.takeWhile_append_dropWhile]
  · intro c inside
    exact List.mem_takeWhile_imp inside
  · intro c inside
    exact List.mem_takeWhile_imp (List.mem_reverse.1 inside)
  · intro c head
    have front : (text.dropWhile isBlank).head? = some c := by
      rw [cut, List.head?_append, Option.mem_def.1 head]
      rfl
    have kept := List.head?_dropWhile_not isBlank text
    rw [front] at kept
    simpa using kept
  · intro c final
    rw [trim, List.getLast?_reverse] at final
    have kept := List.head?_dropWhile_not isBlank (text.dropWhile isBlank).reverse
    rw [Option.mem_def.1 final] at kept
    simpa using kept

theorem isInside_iff {inside text : List Char} : IsInside inside text ↔ trim text = inside := by
  constructor
  · rintro ⟨⟨front, behind, rfl, frontBlank, behindBlank⟩, first, last⟩
    by_cases empty : inside = []
    · subst empty
      have all : (front ++ ([] ++ behind)).dropWhile isBlank = [] := by
        rw [List.nil_append, List.dropWhile_append_of_pos frontBlank]
        exact List.dropWhile_eq_nil_iff.2 behindBlank
      rw [trim, all]
      rfl
    · have head : ∀ c ∈ (inside ++ behind).head?, isBlank c = false := by
        rwa [List.head?_append_of_ne_nil _ empty]
      have final : ∀ c ∈ inside.reverse.head?, isBlank c = false := by
        rwa [List.head?_reverse]
      have blank : ∀ c ∈ behind.reverse, isBlank c = true := by simpa using behindBlank
      rw [trim, (takeWhile_run frontBlank head).2, List.reverse_append, (takeWhile_run blank final).2,
        List.reverse_reverse]
  · rintro rfl
    exact isInside_trim text

end Text

/-! ## Spelling -/

namespace Calendar

/-- A run of so many digits. -/
def IsRun (width : Nat) (digits : List Char) : Prop :=
  digits.length = width ∧ digits.all isDigit = true

/-- A leap year: every fourth, but of the full hundreds only every fourth. -/
def IsLeapYear (year : Nat) : Prop := 4 ∣ year ∧ (100 ∣ year → 400 ∣ year)

instance (year : Nat) : Decidable (IsLeapYear year) := inferInstanceAs (Decidable (_ ∧ _))

/-- The lengths of the months of a year, from January on. -/
def monthLengths (year : Nat) : List Nat :=
  [31, if IsLeapYear year then 29 else 28, 31, 30, 31, 30, 31, 31, 30, 31, 30, 31]

/-- The runs of digits of a strict timestamp. -/
structure Spelling where
  year : List Char
  month : List Char
  day : List Char
  hour : List Char
  minute : List Char
  second : List Char
  milli : List Char

namespace Spelling

/-- The runs with the marks between them. -/
def text (s : Spelling) : List Char :=
  s.year ++ '-' :: s.month ++ '-' :: s.day ++ 'T' :: s.hour ++ ':' :: s.minute ++ ':' :: s.second ++
    '.' :: s.milli ++ ['Z']

/-- Each run has its number of digits. -/
structure Shaped (s : Spelling) : Prop where
  year : IsRun 4 s.year
  month : IsRun 2 s.month
  day : IsRun 2 s.day
  hour : IsRun 2 s.hour
  minute : IsRun 2 s.minute
  second : IsRun 2 s.second
  milli : IsRun 3 s.milli

/-- The numbers are those of a day in the calendar and of a time of day. -/
structure Real (s : Spelling) : Prop where
  month : 1 ≤ digitsValue s.month ∧ digitsValue s.month ≤ 12
  day : 1 ≤ digitsValue s.day ∧
    digitsValue s.day ≤ (monthLengths (digitsValue s.year)).getD (digitsValue s.month - 1) 0
  hour : digitsValue s.hour ≤ 23
  minute : digitsValue s.minute ≤ 59
  second : digitsValue s.second ≤ 60

/-- The instant has the numbers that are spelled. -/
structure Names (s : Spelling) (t : Instant) : Prop where
  year : t.date.year = digitsValue s.year
  month : t.date.month = digitsValue s.month
  day : t.date.day = digitsValue s.day
  hour : t.clock.hour = digitsValue s.hour
  minute : t.clock.minute = digitsValue s.minute
  second : t.clock.second = digitsValue s.second
  milli : t.clock.nano = digitsValue s.milli * 1000000

end Spelling

/-- A strict timestamp of a real instant. -/
def IsTimestamp (text : List Char) : Prop :=
  ∃ s : Spelling, s.Shaped ∧ s.Real ∧ s.text = text

/-! ## The calendar -/

theorem isLeap_iff (year : Nat) : isLeap year = true ↔ IsLeapYear year := by
  simp only [isLeap, IsLeapYear, Bool.and_eq_true, Bool.or_eq_true, beq_iff_eq, bne_iff_ne]
  omega

theorem daysIn_eq (year : Nat) {month : Nat} (real : 1 ≤ month ∧ month ≤ 12) :
    daysIn year month = (monthLengths year).getD (month - 1) 0 := by
  obtain ⟨least, greatest⟩ := real
  interval_cases month
  any_goals rfl
  have leap := isLeap_iff year
  by_cases longer : IsLeapYear year
  · simp [daysIn, monthLengths, longer, leap.2 longer]
  · simp [daysIn, monthLengths, longer, mt leap.1 longer]

/-- Spelled numbers are real if and only if an instant has them. -/
theorem Spelling.real_iff {s : Spelling} (shaped : s.Shaped) : s.Real ↔ ∃ t, s.Names t := by
  constructor
  · rintro ⟨month, day, hour, minute, second⟩
    have milli : digitsValue s.milli < tenTo s.milli.length := digitsValue_lt shaped.milli.2
    rw [shaped.milli.1] at milli
    have thousand : Decimal.tenTo 3 = 1000 := rfl
    rw [← daysIn_eq _ month] at day
    exact ⟨⟨⟨digitsValue s.year, digitsValue s.month, digitsValue s.day, day⟩,
      ⟨digitsValue s.hour, digitsValue s.minute, digitsValue s.second,
        digitsValue s.milli * 1000000, by omega⟩⟩, rfl, rfl, rfl, rfl, rfl, rfl, rfl⟩
  · rintro ⟨t, year, month, day, hour, minute, second, milli⟩
    have real := t.date.real
    have within := t.date.month_real
    have clock := t.clock.real
    rw [year, month, day] at real
    rw [month] at within
    rw [daysIn_eq _ within] at real
    exact ⟨within, real, by omega, by omega, by omega⟩

/-! ## Reading -/

theorem number?_eq_some {digits : List Char} {n : Nat} :
    number? digits = some n ↔ digits.all isDigit = true ∧ digitsValue digits = n := by
  simp [number?]

theorem ofParts?_eq_some {year month day hour minute second nano : Nat} {t : Instant} :
    Instant.ofParts? year month day hour minute second nano = some t ↔
      (t.date.year = year ∧ t.date.month = month ∧ t.date.day = day) ∧ t.clock.hour = hour ∧
        t.clock.minute = minute ∧ t.clock.second = second ∧ t.clock.nano = nano := by
  constructor
  · exact parts_of_ofParts?
  · obtain ⟨⟨y, m, d, realDay⟩, ⟨h, n, s, f, realTime⟩⟩ := t
    rintro ⟨⟨rfl, rfl, rfl⟩, rfl, rfl, rfl, rfl⟩
    simp only [Instant.ofParts?, Date.ofParts?, Clock.ofParts?, dif_pos realDay, dif_pos realTime]
    rfl

/-- The reader takes the spelled texts of real instants, each for its instant. -/
theorem readStrict?_eq_some {text : List Char} {t : Instant} :
    Instant.readStrict? text = some t ↔ ∃ s : Spelling, s.Shaped ∧ s.Names t ∧ s.text = text := by
  constructor
  · intro read
    unfold Instant.readStrict? at read
    split at read
    · next y1 y2 y3 y4 m1 m2 d1 d2 h1 h2 n1 n2 s1 s2 f1 f2 f3 =>
      simp only [bind, Option.bind_eq_some_iff, number?_eq_some, ofParts?_eq_some] at read
      obtain ⟨_, ⟨year, rfl⟩, _, ⟨month, rfl⟩, _, ⟨day, rfl⟩, _, ⟨hour, rfl⟩, _, ⟨minute, rfl⟩,
        _, ⟨second, rfl⟩, _, ⟨milli, rfl⟩, ⟨inYear, inMonth, inDay⟩, inHour, inMinute, inSecond,
        inNano⟩ := read
      refine ⟨⟨[y1, y2, y3, y4], [m1, m2], [d1, d2], [h1, h2], [n1, n2], [s1, s2], [f1, f2, f3]⟩,
        ?_, ?_, rfl⟩
      · exact ⟨⟨rfl, year⟩, ⟨rfl, month⟩, ⟨rfl, day⟩, ⟨rfl, hour⟩, ⟨rfl, minute⟩, ⟨rfl, second⟩,
          ⟨rfl, milli⟩⟩
      · exact ⟨inYear, inMonth, inDay, inHour, inMinute, inSecond, inNano⟩
    · cases read
  · rintro ⟨⟨year, month, day, hour, minute, second, milli⟩, shaped, names, rfl⟩
    obtain ⟨⟨fourYear, allYear⟩, ⟨twoMonth, allMonth⟩, ⟨twoDay, allDay⟩, ⟨twoHour, allHour⟩,
      ⟨twoMinute, allMinute⟩, ⟨twoSecond, allSecond⟩, ⟨threeMilli, allMilli⟩⟩ := shaped
    obtain ⟨y1, y2, y3, y4, rfl⟩ := List.length_eq_four.1 fourYear
    obtain ⟨m1, m2, rfl⟩ := List.length_eq_two.1 twoMonth
    obtain ⟨d1, d2, rfl⟩ := List.length_eq_two.1 twoDay
    obtain ⟨h1, h2, rfl⟩ := List.length_eq_two.1 twoHour
    obtain ⟨n1, n2, rfl⟩ := List.length_eq_two.1 twoMinute
    obtain ⟨s1, s2, rfl⟩ := List.length_eq_two.1 twoSecond
    obtain ⟨f1, f2, f3, rfl⟩ := List.length_eq_three.1 threeMilli
    simp only [Instant.readStrict?, Spelling.text, List.cons_append, List.nil_append, bind,
      Option.bind_eq_some_iff, number?_eq_some, ofParts?_eq_some]
    exact ⟨_, ⟨allYear, rfl⟩, _, ⟨allMonth, rfl⟩, _, ⟨allDay, rfl⟩, _, ⟨allHour, rfl⟩,
      _, ⟨allMinute, rfl⟩, _, ⟨allSecond, rfl⟩, _, ⟨allMilli, rfl⟩,
      ⟨names.year, names.month, names.day⟩, names.hour, names.minute, names.second, names.milli⟩

theorem readStrict?_isSome {text : List Char} :
    (∃ t, Instant.readStrict? text = some t) ↔ IsTimestamp text := by
  constructor
  · rintro ⟨t, read⟩
    obtain ⟨s, shaped, names, spelled⟩ := readStrict?_eq_some.1 read
    exact ⟨s, shaped, (Spelling.real_iff shaped).2 ⟨t, names⟩, spelled⟩
  · rintro ⟨s, shaped, real, spelled⟩
    obtain ⟨t, names⟩ := (Spelling.real_iff shaped).1 real
    exact ⟨t, readStrict?_eq_some.2 ⟨s, shaped, names, spelled⟩⟩

/-- A text is read if and only if a timestamp of a real instant stands in it, with nothing but
blanks around it. The instant has the numbers that are spelled there, and its print is the
timestamp itself. The texts read as the same instant are those that differ in their blanks. -/
theorem strict_timestamps_are_printed_as_read (text : String) :
    ((∃ t, Instant.readIso? text = some t) ↔
        ∃ inside, IsInside inside text.toList ∧ IsTimestamp inside) ∧
      ∀ t, Instant.readIso? text = some t →
        IsInside t.iso.toList text.toList ∧
          (∃ s : Spelling, s.Shaped ∧ s.Names t ∧ s.text = t.iso.toList) ∧
          ∀ other, Instant.readIso? other = some t ↔ trim other.toList = trim text.toList := by
  refine ⟨?_, fun t read => ?_⟩
  · rw [exists_congr fun inside => and_congr_left' isInside_iff, exists_eq_left']
    exact readStrict?_isSome
  · have printed : t.iso.toList = trim text.toList := by
      rw [iso_of_readIso? read, String.toList_ofList]
    refine ⟨isInside_iff.2 printed.symm, ?_, fun other => ?_⟩
    · rw [printed]
      exact readStrict?_eq_some.1 read
    · constructor
      · intro readOther
        rw [← printed, iso_of_readIso? readOther, String.toList_ofList]
      · intro same
        rw [Instant.readIso?, same]
        exact read

/-- A leap second of a leap day, behind a wide space and before the end of its line. -/
theorem leap_second_is_printed_as_read :
    Instant.readIso? "\u2003 2024-02-29T23:59:60.999Z\n" =
        some ⟨⟨2024, 2, 29, by decide⟩, ⟨23, 59, 60, 999000000, by decide⟩⟩ ∧
      ∀ other, Instant.readIso? other =
          some ⟨⟨2024, 2, 29, by decide⟩, ⟨23, 59, 60, 999000000, by decide⟩⟩ ↔
        trim other.toList = "2024-02-29T23:59:60.999Z".toList :=
  have read : Instant.readIso? "\u2003 2024-02-29T23:59:60.999Z\n" =
      some ⟨⟨2024, 2, 29, by decide⟩, ⟨23, 59, 60, 999000000, by decide⟩⟩ := by decide +kernel
  ⟨read, ((strict_timestamps_are_printed_as_read _).2 _ read).2.2⟩

end Calendar
end Polyquery
