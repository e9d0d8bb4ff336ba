import Mathlib.Data.List.Nodup
import Polyquery.Query.Filter

/-! The order of filters. Categories have a fixed order, and filters of one category have
none among each other; so a stable sort by category puts the filters of each category
behind each other, in the order that they had. -/
namespace Polyquery

/-- The place of a category in the fixed order. -/
def Category.place (category : Category) : Nat := Category.all.idxOf category

theorem Category.place_injective {a b : Category} (same : a.place = b.place) : a = b := by
  revert same
  cases a <;> cases b <;> decide

theorem Category.all_increasing : Category.all.Pairwise fun a b => a.place < b.place := by decide

theorem Category.mem_all (category : Category) : category ∈ Category.all := by
  cases category <;> decide

section
variable {α : Type}

def Filter.category (filter : Filter α) : Category := filter.test.category

/-- The order of categories, in which filters of one category are equal. -/
def Filter.notAfter (a b : Filter α) : Bool := a.category.place ≤ b.category.place

/-- The filters of one category, in their order. -/
def filtersIn (category : Category) (list : List (Filter α)) : List (Filter α) :=
  list.filter fun filter => filter.category == category

/-- Filters stably sorted by category. -/
def byCategory (list : List (Filter α)) : List (Filter α) := list.mergeSort Filter.notAfter

theorem mem_filtersIn {category : Category} {list : List (Filter α)} {filter : Filter α} :
    filter ∈ filtersIn category list ↔ filter ∈ list ∧ filter.category = category := by
  simp [filtersIn]

/-- A sorted list begins with its filters of the first category. -/
theorem filtersIn_append {category : Category} {list : List (Filter α)}
    (sorted : list.Pairwise fun a b => a.category.place ≤ b.category.place)
    (first : ∀ filter ∈ list, category.place ≤ filter.category.place) :
    filtersIn category list ++ list.filter (fun filter => filter.category != category) = list := by
  induction list with
  | nil => rfl
  | cons filter rest ih =>
    obtain ⟨before, sortedRest⟩ := List.pairwise_cons.1 sorted
    obtain ⟨_, firstRest⟩ := List.forall_mem_cons.1 first
    by_cases same : filter.category = category
    · have kept := ih sortedRest firstRest
      simpa [filtersIn, same] using kept
    · have none : filtersIn category (filter :: rest) = [] := by
        refine List.filter_eq_nil_iff.2 fun other listed => ?_
        have ahead := first filter List.mem_cons_self
        have different : category.place ≠ filter.category.place :=
          fun equal => same (Category.place_injective equal).symm
        have behind : filter.category.place ≤ other.category.place := by
          rcases List.mem_cons.1 listed with rfl | later
          · exact Nat.le_refl _
          · exact before other later
        intro its
        rw [beq_iff_eq] at its
        rw [its] at behind
        omega
      have all : (filter :: rest).filter (fun filter => filter.category != category) = filter :: rest := by
        refine List.filter_eq_self.2 fun other listed => ?_
        have foreign := List.filter_eq_nil_iff.1 none other listed
        simpa using foreign
      rw [none, all, List.nil_append]

/-- A sorted list is the list of its categories. -/
theorem sorted_eq_flatMap {categories : List Category} {list : List (Filter α)}
    (increasing : categories.Pairwise fun a b => a.place < b.place)
    (sorted : list.Pairwise fun a b => a.category.place ≤ b.category.place)
    (within : ∀ filter ∈ list, filter.category ∈ categories) :
    list = categories.flatMap fun category => filtersIn category list := by
  induction categories generalizing list with
  | nil =>
    cases list with
    | nil => rfl
    | cons filter rest => cases within filter List.mem_cons_self
  | cons category categories ih =>
    obtain ⟨before, increasing⟩ := List.pairwise_cons.1 increasing
    have first : ∀ filter ∈ list, category.place ≤ filter.category.place := by
      intro filter listed
      rcases List.mem_cons.1 (within filter listed) with same | later
      · exact Nat.le_of_eq (congrArg Category.place same.symm)
      · exact Nat.le_of_lt (before _ later)
    have others := ih increasing (sorted.filter fun filter => filter.category != category)
      fun filter listed => by
        obtain ⟨inside, different⟩ := List.mem_filter.1 listed
        exact (List.mem_cons.1 (within filter inside)).resolve_left (by simpa using different)
    have unmoved : ∀ other ∈ categories,
        filtersIn other (list.filter fun filter => filter.category != category) = filtersIn other list := by
      intro other listed
      rw [filtersIn, filtersIn, List.filter_filter]
      refine List.filter_congr fun filter _ => ?_
      have apart : other ≠ category := by
        rintro rfl
        exact Nat.lt_irrefl _ (before _ listed)
      by_cases its : filter.category = other
      · simp [its, apart]
      · simp [its]
    calc list = filtersIn category list ++ list.filter (fun filter => filter.category != category) :=
          (filtersIn_append sorted first).symm
      _ = filtersIn category list ++ categories.flatMap fun other => filtersIn other list := by
          rw [others]
          exact congrArg _ (List.flatMap_congr unmoved)

theorem notAfter_iff {a b : Filter α} : a.notAfter b = true ↔ a.category.place ≤ b.category.place := by
  simp [Filter.notAfter]

theorem notAfter_trans (a b c : Filter α) (first : a.notAfter b = true) (second : b.notAfter c = true) :
    a.notAfter c = true :=
  notAfter_iff.2 (Nat.le_trans (notAfter_iff.1 first) (notAfter_iff.1 second))

theorem notAfter_total (a b : Filter α) : (a.notAfter b || b.notAfter a) = true := by
  rw [Bool.or_eq_true, notAfter_iff, notAfter_iff]
  exact Nat.le_total _ _

theorem byCategory_sorted (list : List (Filter α)) :
    (byCategory list).Pairwise fun a b => a.category.place ≤ b.category.place := by
  have sorted := List.pairwise_mergeSort notAfter_trans notAfter_total list
  exact sorted.imp fun inOrder => notAfter_iff.1 inOrder

/-- Sorting by category moves no filter of a category past another one of it. -/
theorem filtersIn_byCategory (category : Category) (list : List (Filter α)) :
    filtersIn category (byCategory list) = filtersIn category list := by
  have equal : (filtersIn category list).Pairwise fun a b => a.notAfter b = true := by
    refine List.pairwise_of_forall_mem_list fun a first b second => notAfter_iff.2 ?_
    have same : a.category = b.category := (mem_filtersIn.1 first).2.trans (mem_filtersIn.1 second).2.symm
    exact Nat.le_of_eq (congrArg Category.place same)
  have kept : (filtersIn category list).Sublist (byCategory list) :=
    List.sublist_mergeSort notAfter_trans notAfter_total equal List.filter_sublist
  have inside : (filtersIn category list).Sublist (filtersIn category (byCategory list)) := by
    have again := kept.filter fun filter => filter.category == category
    simpa only [filtersIn, List.filter_filter, Bool.and_self] using again
  have moved : (byCategory list).Perm list := List.mergeSort_perm list Filter.notAfter
  exact (inside.eq_of_length (moved.filter _).length_eq.symm).symm

/-- A list stably sorted by category is the list of its categories, each in its order. -/
theorem byCategory_eq (list : List (Filter α)) :
    byCategory list = Category.all.flatMap fun category => filtersIn category list := by
  have grouped := sorted_eq_flatMap Category.all_increasing (byCategory_sorted list)
    fun filter _ => Category.mem_all _
  rw [grouped]
  exact List.flatMap_congr fun category _ => filtersIn_byCategory category list

end

end Polyquery
