import Mathlib.Algebra.Group.Nat.Defs
import Mathlib.Logic.ExistsUnique
import Polyquery.Proofs.Refusals

/-! Pages side by side. The windows that the pages of one size get follow each other
from the first row on, none of them wraps around the end of the row numbers, and so
every row in front of the end of a page lies in one page, and in one only. -/
namespace Polyquery

namespace Window

/-- The row that a window begins with, counted from zero. -/
def first (window : Window) : Nat := window.offset.getD 0

/-- The row behind a window. -/
def past (window : Window) : Nat := window.first + window.limit

/-- The rows of a window. -/
instance : Membership Nat Window := ⟨fun window row => window.first ≤ row ∧ row < window.past⟩

/-- The window of a page of so many rows. -/
def ofPage (limit cap page : Nat) : Except Error Window := ofPaging (some ⟨some page, some limit⟩) cap

theorem rowNumbers_eq : rowNumbers = 2 ^ 64 := by decide

section
variable {limit page cap : Nat} {window : Window}

theorem ofPage_eq (positive : 0 < limit) (page cap : Nat) :
    ofPage limit cap page =
      if 2 ^ 64 ≤ (page - 1) * limit then .error (.unusable (.pageOutOfRange page limit))
      else .ok ⟨limit, if (page - 1) * limit = 0 then none else some ((page - 1) * limit)⟩ := by
  have sized : (Paging.mk (some page) (some limit)).size? = some limit := by
    simp [Paging.size?, positive]
  simp only [ofPage, ofPaging, Option.bind_some, sized, rowNumbers_eq]

theorem ofPage_eq_error (positive : 0 < limit) {error : Error} :
    ofPage limit cap page = .error error ↔
      2 ^ 64 ≤ (page - 1) * limit ∧ error = .unusable (.pageOutOfRange page limit) := by
  rw [ofPage_eq positive]
  split
  · next beyond =>
    exact ⟨fun same => ⟨beyond, (Except.error.inj same).symm⟩, fun ⟨_, same⟩ => congrArg _ same.symm⟩
  · next fits => exact ⟨nofun, fun ⟨beyond, _⟩ => absurd beyond fits⟩

theorem ofPage_of_fits (positive : 0 < limit) (fits : (page - 1) * limit < 2 ^ 64) (cap : Nat) :
    ∃ window, ofPage limit cap page = .ok window := by
  rw [ofPage_eq positive, if_neg (Nat.not_le.2 fits)]
  exact ⟨_, rfl⟩

/-- A page begins behind all rows of the pages in front of it. -/
theorem bounds_of_ofPage (positive : 0 < limit) (opened : ofPage limit cap page = .ok window) :
    (page - 1) * limit < 2 ^ 64 ∧ window.first = (page - 1) * limit ∧ window.limit = limit := by
  rw [ofPage_eq positive] at opened
  split at opened
  · cases opened
  · next fits =>
    cases opened
    refine ⟨Nat.lt_of_not_le fits, ?_, rfl⟩
    by_cases start : (page - 1) * limit = 0
    · simp [first, start]
    · simp [first, start]

/-- The page of a row is found by division, so there is only one. -/
theorem mem_of_ofPage (positive : 0 < limit) (counted : 1 ≤ page)
    (opened : ofPage limit cap page = .ok window) (row : Nat) :
    row ∈ window ↔ page = row / limit + 1 := by
  obtain ⟨_, begins, wide⟩ := bounds_of_ofPage positive opened
  have bounds : row ∈ window ↔ (page - 1) * limit ≤ row ∧ row < (page - 1) * limit + limit := by
    change window.first ≤ row ∧ row < window.first + window.limit ↔ _
    rw [begins, wide]
  have quotient : row / limit = page - 1 ↔
      (page - 1) * limit ≤ row ∧ row ≤ (page - 1) * limit + limit - 1 := Nat.div_eq_iff positive
  generalize (page - 1) * limit = start at bounds quotient
  rw [bounds]
  omega

/-- The pages in front of a page are windows too. -/
theorem ofPage_of_earlier (positive : 0 < limit) {earlier : Nat} (before : earlier ≤ page)
    (opened : ofPage limit cap page = .ok window) :
    ∃ found, ofPage limit cap earlier = .ok found := by
  obtain ⟨fits, _⟩ := bounds_of_ofPage positive opened
  have smaller : (earlier - 1) * limit ≤ (page - 1) * limit :=
    Nat.mul_le_mul_right limit (Nat.sub_le_sub_right before 1)
  exact ofPage_of_fits positive (Nat.lt_of_le_of_lt smaller fits) cap

end

/-- Pages of one size divide the rows among them, from the first row on. -/
structure Tiles (limit cap : Nat) : Prop where
  /-- A page begins where it should, or the request is refused: nothing wraps. -/
  placed : ∀ page window, ofPage limit cap page = .ok window →
    window.first = (page - 1) * limit ∧ window.limit = limit ∧ window.first < 2 ^ 64
  refused : ∀ page error, ofPage limit cap page = .error error ↔
    2 ^ 64 ≤ (page - 1) * limit ∧ error = .unusable (.pageOutOfRange page limit)
  /-- The first page is always there, also as page zero and without a number. -/
  begins : ∃ window, ofPage limit cap 1 = .ok window ∧ window.first = 0 ∧
    ofPage limit cap 0 = .ok window ∧ ofPaging (some ⟨none, some limit⟩) cap = .ok window
  /-- In front of a page are all the pages before it, and it begins where the one
  before it ends. -/
  contiguous : ∀ page window, 1 ≤ page → ofPage limit cap (page + 1) = .ok window →
    ∃ before, ofPage limit cap page = .ok before ∧ window.first = before.past
  disjoint : ∀ page other window another, 1 ≤ page → 1 ≤ other → page ≠ other →
    ofPage limit cap page = .ok window → ofPage limit cap other = .ok another →
    ∀ row, row ∈ window → row ∉ another
  /-- A row in front of the end of a page lies in this page or in one before it. -/
  covered : ∀ last window, 1 ≤ last → ofPage limit cap last = .ok window →
    ∀ row, row < window.past →
      ∃! page, 1 ≤ page ∧ page ≤ last ∧ ∃ found, ofPage limit cap page = .ok found ∧ row ∈ found

/-- Pages of any size but zero divide the rows among them. -/
theorem tiles {limit : Nat} (positive : 0 < limit) (cap : Nat) : Tiles limit cap where
  placed page window opened := by
    obtain ⟨fits, begins, wide⟩ := bounds_of_ofPage positive opened
    exact ⟨begins, wide, begins ▸ fits⟩
  refused page error := ofPage_eq_error positive
  begins := by
    have sized : (Paging.mk none (some limit)).size? = some limit := by
      simp [Paging.size?, positive]
    refine ⟨⟨limit, none⟩, ?_, rfl, ?_, ?_⟩
    · simp [ofPage_eq positive]
    · simp [ofPage_eq positive]
    · simp [ofPaging, sized]
  contiguous page window counted opened := by
    obtain ⟨before, found⟩ := ofPage_of_earlier positive (Nat.le_succ page) opened
    obtain ⟨_, begins, _⟩ := bounds_of_ofPage positive opened
    obtain ⟨_, start, wide⟩ := bounds_of_ofPage positive found
    refine ⟨before, found, ?_⟩
    have next : page + 1 - 1 = (page - 1) + 1 := by omega
    rw [past, begins, start, wide, next, Nat.succ_mul]
  disjoint page other window another counted counts different opened found row inside stays := by
    rw [mem_of_ofPage positive counted opened] at inside
    rw [mem_of_ofPage positive counts found] at stays
    exact different (inside.trans stays.symm)
  covered last window counted opened row before := by
    obtain ⟨_, begins, wide⟩ := bounds_of_ofPage positive opened
    have full : row / limit < last := by
      rw [Nat.div_lt_iff_lt_mul positive]
      have end_eq : window.past = last * limit := by
        rw [past, begins, wide, ← Nat.succ_mul, Nat.succ_eq_add_one, Nat.sub_add_cancel counted]
      rwa [end_eq] at before
    obtain ⟨found, here⟩ := ofPage_of_earlier positive full opened
    refine ⟨row / limit + 1, ⟨Nat.succ_pos _, full, found, here, ?_⟩, ?_⟩
    · exact (mem_of_ofPage positive (Nat.succ_pos _) here row).2 rfl
    · rintro page ⟨counts, _, another, there, inside⟩
      exact (mem_of_ofPage positive counts there row).1 inside

/-- Without a page size every page is the first one, of as many rows as the cap
allows. -/
theorem ofPaging_unsized {paging : Option Paging} (unsized : paging.bind Paging.size? = none) (cap : Nat) :
    ofPaging paging cap = .ok ⟨cap, none⟩ := by
  simp only [ofPaging, unsized]

/-- An offset of zero is never said. -/
theorem offset_ne_zero {paging : Option Paging} {cap : Nat} {window : Window}
    (opened : ofPaging paging cap = .ok window) : window.offset ≠ some 0 := by
  unfold ofPaging at opened
  split at opened
  · cases opened
    simp
  · split at opened
    · cases opened
      simp
    · simp only at opened
      split at opened
      · cases opened
      · cases opened
        split <;> simp_all

end Window

/-- The pages of any size divide the rows among them: they follow each other without a
gap and without a row in common, from the first row on, and every row in front of the
end of a page lies in exactly one. A page is refused exactly if its first row has a
number beyond 64 bits. Without a size, or with size zero, every page is the first one
and has as many rows as the cap. -/
theorem pages_divide_rows (cap : Nat) :
    (∀ limit, 0 < limit → Window.Tiles limit cap) ∧
    (∀ page, Window.ofPaging (some ⟨page, none⟩) cap = .ok ⟨cap, none⟩ ∧
      Window.ofPaging (some ⟨page, some 0⟩) cap = .ok ⟨cap, none⟩) ∧
    Window.ofPaging none cap = .ok ⟨cap, none⟩ ∧
    (∀ paging error, Window.ofPaging paging cap = .error error →
      ∃ page limit, paging = some ⟨some page, some limit⟩ ∧ 0 < limit ∧ 2 ^ 64 ≤ (page - 1) * limit ∧
        error = .unusable (.pageOutOfRange page limit)) ∧
    ∀ paging window, Window.ofPaging paging cap = .ok window → window.offset ≠ some 0 := by
  refine ⟨fun limit positive => Window.tiles positive cap, fun page => ⟨?_, ?_⟩, ?_, ?_, ?_⟩
  · exact Window.ofPaging_unsized rfl cap
  · exact Window.ofPaging_unsized rfl cap
  · exact Window.ofPaging_unsized rfl cap
  · intro paging error failed
    obtain ⟨page, limit, asked, positive, beyond, same⟩ := ofPaging_eq_error.1 failed
    exact ⟨page, limit, asked, positive, by omega, same⟩
  · intro paging window opened
    exact Window.offset_ne_zero opened

/-- Four rows to a page: the eleventh row is on one of three pages. Ten rows to a page: a
page halfway to the end of the numbers is refused. -/
theorem eleventh_row_on_one_page :
    0 < 4 ∧ 0 < 10 ∧ Window.ofPage 4 5000 3 = .ok ⟨4, some 8⟩ ∧
      (∃! page, 1 ≤ page ∧ page ≤ 3 ∧
        ∃ found, Window.ofPage 4 5000 page = .ok found ∧ 10 ∈ found) ∧
      Window.ofPage 10 5000 0x7FFFFFFFFFFFFFFF =
        .error (.unusable (.pageOutOfRange 0x7FFFFFFFFFFFFFFF 10)) ∧
      Window.ofPaging (some ⟨some 4, some 0⟩) 100 = .ok ⟨100, none⟩ := by
  have third : Window.ofPage 4 5000 3 = .ok ⟨4, some 8⟩ := rfl
  have fours := (pages_divide_rows 5000).1 4 (by decide)
  have tens := (pages_divide_rows 5000).1 10 (by decide)
  refine ⟨by decide, by decide, third, ?_, ?_, ?_⟩
  · exact fours.covered 3 _ (by decide) third 10 (by decide)
  · exact (tens.refused _ _).2 ⟨by decide, rfl⟩
  · exact ((pages_divide_rows 100).2.1 (some 4)).2

end Polyquery
