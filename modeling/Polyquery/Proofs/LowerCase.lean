import Polyquery.Text.Lowercase

/-! Lower case and its surroundings. Only the capital sigma looks at the characters
around it, and not beyond the end of its word; so a text is lower-cased alike whatever
stands behind a character that ends words. Lower-casing makes letters, and none of the
marks of ASCII that were not there. -/
namespace Polyquery.Text

/-! ## Ends of words -/

/-- A character that is neither cased nor skipped in the search for a cased one. -/
def EndsWords (c : Char) : Prop := isCased c = false ∧ isCaseIgnorable c = false

theorem inRanges_of_outside {ranges : Array (Nat × Nat)} {n : Nat}
    (outside : ranges.toList.all (fun range => Nat.blt n range.1 || Nat.blt range.2 n) = true) :
    inRanges ranges n = false := by
  rw [inRanges, ← Array.any_toList, List.any_eq_false]
  intro range member
  have apart := List.all_eq_true.1 outside range member
  simp only [Bool.or_eq_true, Nat.blt_eq] at apart
  simp only [Bool.and_eq_true, decide_eq_true_eq]
  omega

theorem sigma_isCased : isCased (Char.ofNat 0x3A3) = true := by
  have code : (Char.ofNat 0x3A3).toNat = 0x3A3 := rfl
  rw [isCased, code, inRanges, ← Array.any_toList, List.any_eq_true]
  exact ⟨(0x3A3, 0x3F5), by decide +kernel, by decide +kernel⟩

theorem percent_endsWords : EndsWords '%' :=
  ⟨inRanges_of_outside (by decide +kernel), inRanges_of_outside (by decide +kernel)⟩

section
variable {edge : Char} (ends : EndsWords edge)
include ends

/-- The end of a word hides what is behind it. -/
theorem nextIsCased_edge (text behind : List Char) :
    nextIsCased (text ++ edge :: behind) = nextIsCased text := by
  unfold nextIsCased
  induction text with
  | nil => simp [ends.1, ends.2]
  | cons c rest ih =>
    cases ignorable : isCaseIgnorable c with
    | true => simpa [List.dropWhile_cons, ignorable] using ih
    | false => simp [ignorable]

theorem ne_sigma : edge ≠ Char.ofNat 0x3A3 := by
  rintro rfl
  have cased := sigma_isCased
  rw [ends.1] at cased
  cases cased

/-- A text is lower-cased alike behind the end of a word. -/
theorem lowerAfter_behind (before far text : List Char) :
    lowerAfter (before ++ edge :: far) text = lowerAfter before text := by
  -- The text behind grows at its near end, so what is beyond the edge stays.
  induction text generalizing before with
  | nil => rfl
  | cons c rest ih =>
    have further := ih (c :: before)
    rw [List.cons_append] at further
    rw [lowerAfter, lowerAfter, further, nextIsCased_edge ends]

/-- The end of a word splits a text into two that are lower-cased apart. -/
theorem lowerAfter_edge (before text behind : List Char) :
    lowerAfter before (text ++ edge :: behind) =
      lowerAfter before text ++ lowerChar edge ++ lowerAfter [] behind := by
  induction text generalizing before with
  | nil =>
    have apart : lowerAfter (edge :: before) behind = lowerAfter [] behind :=
      lowerAfter_behind ends [] before behind
    simp [lowerAfter, ne_sigma ends, apart]
  | cons c rest ih =>
    rw [List.cons_append, lowerAfter, lowerAfter, ih, nextIsCased_edge ends, List.append_assoc,
      List.append_assoc, List.append_assoc]

end

/-! ## Runs -/

namespace CaseRun

/-- Whether a code point is one of a run. -/
def covers (run : CaseRun) (n : Nat) : Bool :=
  run.first ≤ n && n ≤ run.last && (n - run.first) % run.stride == 0

/-- Where the first code point of a run is moved to. -/
def low (run : CaseRun) : Nat := (run.first + run.shift).toNat

/-- Where the last code point of a run is moved to. -/
def high (run : CaseRun) : Nat := (run.last + run.shift).toNat

/-- A run of every second code point, or of one. -/
def sparse (run : CaseRun) : Bool := run.stride == 2 || run.first == run.last

/-- Whether a run is moved past another one, or to the gaps between its code points. -/
def avoids (run other : CaseRun) : Bool :=
  Nat.blt other.last run.low || Nat.blt run.high other.first ||
    (other.stride == 2 && run.sparse && (run.low + other.first) % 2 == 1)

end CaseRun

theorem caseRuns_above : ∀ run ∈ caseRuns.toList, (0x60 : Int) < run.first + run.shift := by
  decide +kernel

/-- Runs are moved to characters, on either side of the surrogates. -/
theorem caseRuns_real :
    ∀ run ∈ caseRuns.toList, run.high < 0xD800 ∨ 0xDFFF < run.low ∧ run.high < 0x110000 := by
  decide +kernel

/-- No run is moved to the code points of any run. -/
theorem caseRuns_avoid : caseRuns.toList.all (fun run => caseRuns.toList.all run.avoids) = true := by
  decide +kernel

/-- No run is moved to the dotted capital I. -/
theorem caseRuns_undotted : caseRuns.toList.all (fun run => run.avoids ⟨0x130, 0x130, 2, 0⟩) = true := by
  decide +kernel

section
variable {run : CaseRun} {n : Nat} (member : run ∈ caseRuns.toList) (covered : run.covers n = true)
include member covered

theorem moved_above : 0x60 < (n + run.shift).toNat := by
  have above := caseRuns_above run member
  simp only [CaseRun.covers, Bool.and_eq_true, decide_eq_true_eq] at covered
  omega

/-- What a code point is moved to is that of a character. -/
theorem toNat_moved : (Char.ofNat (n + run.shift).toNat).toNat = (n + run.shift).toNat := by
  have real := caseRuns_real run member
  have above := caseRuns_above run member
  simp only [CaseRun.covers, Bool.and_eq_true, decide_eq_true_eq] at covered
  simp only [CaseRun.low, CaseRun.high] at real
  have valid : (n + run.shift).toNat.isValidChar := by
    rw [Nat.isValidChar]
    omega
  have made : Char.ofNat (n + run.shift).toNat = Char.ofNatAux _ valid := dif_pos valid
  rw [made]
  rfl

theorem covers_moved {other : CaseRun} (avoids : run.avoids other = true) :
    other.covers (n + run.shift).toNat = false := by
  have above := caseRuns_above run member
  simp only [CaseRun.avoids, CaseRun.sparse, CaseRun.low, CaseRun.high, CaseRun.covers, Nat.blt_eq,
    Bool.or_eq_true, Bool.and_eq_true, beq_iff_eq, decide_eq_true_eq] at avoids covered
  obtain ⟨⟨atLeast, atMost⟩, step⟩ := covered
  rw [← Bool.not_eq_true]
  simp only [CaseRun.covers, Bool.and_eq_true, beq_iff_eq, decide_eq_true_eq]
  rintro ⟨⟨low, high⟩, place⟩
  rcases avoids with (below | beyond) | ⟨⟨second, sparse⟩, gap⟩
  · omega
  · omega
  · rw [second] at place
    rcases sparse with other | single
    · rw [other] at step
      omega
    · omega

end

/-! ## Marks -/

theorem toLower_eq_of_low {c : Char} (low : c.toLower.toNat ≤ 0x60) : c.toLower = c := by
  unfold Char.toLower at low ⊢
  split at low
  · next upper =>
    have gap : ('a'.val - 'A'.val).toNat = 32 := rfl
    have moved : (c.val + ('a'.val - 'A'.val)).toNat = c.val.toNat + 32 := by
      have bound : c.val.toNat ≤ 90 := UInt32.le_iff_toNat_le.1 upper.2
      rw [UInt32.toNat_add, gap]
      exact Nat.mod_eq_of_lt (by omega)
    have bound : 65 ≤ c.val.toNat := UInt32.le_iff_toNat_le.1 upper.1
    have here : (c.val + ('a'.val - 'A'.val)).toNat ≤ 0x60 := low
    omega
  · next other => rw [dif_neg other]

/-- Lower-casing one character makes no mark below the small letters. -/
theorem eq_of_mem_lowerChar {c d : Char} (inside : d ∈ lowerChar c) (low : d.toNat ≤ 0x60) : d = c := by
  simp only [lowerChar] at inside
  split at inside
  · rw [List.mem_singleton] at inside
    rw [inside] at low ⊢
    exact toLower_eq_of_low low
  · split at inside
    · rcases List.mem_cons.1 inside with rfl | dot
      · exact absurd low (by decide)
      · rw [List.mem_singleton] at dot
        rw [dot] at low
        exact absurd low (by decide)
    · split at inside
      · next run found =>
        have within : run.covers c.toNat = true := by
          have meets := Array.find?_some found
          rwa [CaseRun.covers]
        have member := Array.mem_def.1 (Array.mem_of_find?_eq_some found)
        have beyond := moved_above member within
        rw [List.mem_singleton.1 inside, toNat_moved member within] at low
        omega
      · exact List.mem_singleton.1 inside

/-- Lower-casing a text makes no mark below the small letters. -/
theorem mem_of_mem_lowerAfter {before text : List Char} {d : Char} (inside : d ∈ lowerAfter before text)
    (low : d.toNat ≤ 0x60) : d ∈ text := by
  induction text generalizing before with
  | nil => cases inside
  | cons c rest ih =>
    rw [lowerAfter, List.mem_append] at inside
    rcases inside with here | further
    · split at here
      · split at here
        all_goals
          rw [List.mem_singleton] at here
          rw [here] at low
          exact absurd low (by decide)
      · rw [eq_of_mem_lowerChar here low]
        exact List.mem_cons_self
    · exact List.mem_cons_of_mem c (ih further)

/-! ## Lower-case texts -/

/-- A character that lower-casing leaves as it is. -/
def Settled (c : Char) : Prop := lowerChar c = [c]

instance (c : Char) : Decidable (Settled c) := inferInstanceAs (Decidable (lowerChar c = [c]))

/-- An ASCII character is settled unless it is a capital letter. -/
theorem settled_of_ascii {c : Char} (ascii : c.toNat < 0x80) (small : c.toNat < 65 ∨ 90 < c.toNat) :
    Settled c := by
  have same : c.toLower = c := by
    unfold Char.toLower
    refine dif_neg fun upper => ?_
    have least : 65 ≤ c.toNat := UInt32.le_iff_toNat_le.1 upper.1
    have most : c.toNat ≤ 90 := UInt32.le_iff_toNat_le.1 upper.2
    omega
  rw [Settled, lowerChar, if_pos ascii, same]

/-- A character beyond ASCII is settled if no run covers it. -/
theorem settled_of_uncovered {c : Char} (beyond : 0x80 ≤ c.toNat) (undotted : c.toNat ≠ 0x130)
    (uncovered : ∀ run ∈ caseRuns.toList, run.covers c.toNat = false) : Settled c := by
  have none : caseRuns.find? (fun run => run.covers c.toNat) = none := by
    rw [Array.find?_eq_none]
    intro run member
    simp [uncovered run (Array.mem_def.1 member)]
  unfold CaseRun.covers at none
  rw [Settled, lowerChar, if_neg (by omega), if_neg undotted, none]

/-- What a run is moved to is settled. -/
theorem settled_moved {run : CaseRun} {n : Nat} (member : run ∈ caseRuns.toList)
    (covered : run.covers n = true) : Settled (Char.ofNat (n + run.shift).toNat) := by
  have avoids := List.all_eq_true.1 (List.all_eq_true.1 caseRuns_avoid run member)
  have undotted := covers_moved member covered (List.all_eq_true.1 caseRuns_undotted run member)
  have beyond := moved_above member covered
  have code := toNat_moved member covered
  by_cases ascii : (n + run.shift).toNat < 0x80
  · exact settled_of_ascii (by omega) (by omega)
  · refine settled_of_uncovered (by omega) ?_ fun other inside => ?_
    · rw [code]
      intro same
      simp [CaseRun.covers, same] at undotted
    · rw [code]
      exact covers_moved member covered (avoids other inside)

theorem settled_toLower {c : Char} (ascii : c.toNat < 0x80) : Settled c.toLower := by
  by_cases low : c.toLower.toNat ≤ 0x60
  · have same := toLower_eq_of_low low
    rw [same, Settled, lowerChar, if_pos ascii, same]
  · refine settled_of_ascii ?_ (by omega)
    unfold Char.toLower
    split
    · next upper =>
      have most : c.val.toNat ≤ 90 := UInt32.le_iff_toNat_le.1 upper.2
      have moved : (c.val + ('a'.val - 'A'.val)).toNat ≤ c.val.toNat + 32 := by
        rw [UInt32.toNat_add]
        exact Nat.mod_le _ _
      have here : (c.val + ('a'.val - 'A'.val)).toNat < 0x80 := by omega
      exact here
    · exact ascii

/-- What a character is lower-cased to is settled. -/
theorem settled_of_mem_lowerChar {c d : Char} (inside : d ∈ lowerChar c) : Settled d := by
  rw [lowerChar] at inside
  split at inside
  · next ascii =>
    rw [List.mem_singleton.1 inside]
    exact settled_toLower ascii
  · next beyond =>
    split at inside
    · rcases List.mem_cons.1 inside with rfl | dot
      · decide +kernel
      · rw [List.mem_singleton.1 dot]
        decide +kernel
    · next undotted =>
      split at inside
      · next run found =>
        have within : run.covers c.toNat = true := by
          have meets := Array.find?_some found
          rwa [CaseRun.covers]
        rw [List.mem_singleton.1 inside]
        exact settled_moved (Array.mem_def.1 (Array.mem_of_find?_eq_some found)) within
      · next none =>
        rw [List.mem_singleton.1 inside, Settled, lowerChar, if_neg beyond, if_neg undotted, none]

/-- The small sigmas are settled, and the capital one is not. -/
theorem settled_sigmas : Settled (Char.ofNat 0x3C2) ∧ Settled (Char.ofNat 0x3C3) ∧
    ¬Settled (Char.ofNat 0x3A3) := by
  decide +kernel

theorem settled_of_mem_lowerAfter {before text : List Char} {c : Char}
    (inside : c ∈ lowerAfter before text) : Settled c := by
  induction text generalizing before with
  | nil => cases inside
  | cons first rest ih =>
    rw [lowerAfter, List.mem_append] at inside
    rcases inside with here | further
    · split at here
      · split at here
        · exact List.mem_singleton.1 here ▸ settled_sigmas.1
        · exact List.mem_singleton.1 here ▸ settled_sigmas.2.1
      · exact settled_of_mem_lowerChar here
    · exact ih further

/-- What is settled stays where it is. -/
theorem mem_lowerAfter {before text : List Char} {c : Char} (settled : Settled c) (inside : c ∈ text) :
    c ∈ lowerAfter before text := by
  induction text generalizing before with
  | nil => cases inside
  | cons first rest ih =>
    rw [lowerAfter, List.mem_append]
    rcases List.mem_cons.1 inside with rfl | further
    · have small : c ≠ Char.ofNat 0x3A3 := by
        rintro rfl
        exact settled_sigmas.2.2 settled
      rw [if_neg small, settled]
      exact .inl List.mem_cons_self
    · exact .inr (ih further)

theorem lowerAfter_of_settled {before text : List Char} (settled : ∀ c ∈ text, Settled c) :
    lowerAfter before text = text := by
  induction text generalizing before with
  | nil => rfl
  | cons c rest ih =>
    obtain ⟨first, others⟩ := List.forall_mem_cons.1 settled
    have small : c ≠ Char.ofNat 0x3A3 := by
      rintro rfl
      exact settled_sigmas.2.2 first
    rw [lowerAfter, if_neg small, first, ih others]
    rfl

/-- A text is in lower case exactly if every character of it is settled. -/
theorem lower_eq_self {text : String} : lower text = text ↔ ∀ c ∈ text.toList, Settled c := by
  constructor
  · intro same c inside
    rw [← same, lower, String.toList_ofList] at inside
    exact settled_of_mem_lowerAfter inside
  · intro settled
    rw [lower, lowerAfter_of_settled settled, String.ofList_toList]

theorem settled_lower (text : String) : ∀ c ∈ (lower text).toList, Settled c := by
  intro c inside
  rw [lower, String.toList_ofList] at inside
  exact settled_of_mem_lowerAfter inside

end Polyquery.Text
