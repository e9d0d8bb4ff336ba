/-! Dictionaries: values under distinct names, kept in the order of the names.
Two dictionaries with the same contents are the same value, so the order in
which they were filled cannot be told. -/
namespace Polyquery

/-- Values under names that strictly increase. -/
structure Dictionary (α : Type) where
  entries : List (String × α)
  increasing : entries.Pairwise fun a b => a.1 < b.1

namespace Dictionary
variable {α β : Type}

instance [DecidableEq α] : DecidableEq (Dictionary α) := fun a b =>
  if same : a.entries = b.entries then
    isTrue (by cases a; cases b; cases same; rfl)
  else
    isFalse fun equal => same (congrArg entries equal)

/-- The entries after a write, with the name in its sorted place. -/
def place (name : String) (value : α) : List (String × α) → List (String × α)
  | [] => [(name, value)]
  | (known, old) :: rest =>
    if name = known then (name, value) :: rest
    else if name < known then (name, value) :: (known, old) :: rest
    else (known, old) :: place name value rest

theorem mem_place {name : String} {value : α} {entries : List (String × α)} {entry : String × α}
    (inside : entry ∈ place name value entries) : entry.1 = name ∨ entry ∈ entries := by
  induction entries with
  | nil => simp_all [place]
  | cons head rest ih =>
    obtain ⟨known, old⟩ := head
    simp only [place] at inside
    split at inside
    · rcases List.mem_cons.1 inside with rfl | inside
      · exact .inl rfl
      · exact .inr (by simp [inside])
    · split at inside
      · rcases List.mem_cons.1 inside with rfl | inside
        · exact .inl rfl
        · exact .inr inside
      · rcases List.mem_cons.1 inside with rfl | inside
        · exact .inr (by simp)
        · exact (ih inside).imp_right (by simp +contextual)

private theorem lt_of_other {a b : String} (different : a ≠ b) (notLess : ¬ a < b) : b < a := by
  rcases Decidable.em (b < a) with less | notGreater
  · exact less
  · exact absurd (String.le_antisymm (String.not_lt.1 notGreater) (String.not_lt.1 notLess)) different

theorem increasing_place (name : String) (value : α) {entries : List (String × α)}
    (increasing : entries.Pairwise fun a b => a.1 < b.1) :
    (place name value entries).Pairwise fun a b => a.1 < b.1 := by
  induction entries with
  | nil => simp [place]
  | cons head rest ih =>
    obtain ⟨known, old⟩ := head
    obtain ⟨first, others⟩ := List.pairwise_cons.1 increasing
    simp only [place]
    split
    · next same =>
      subst same
      exact List.pairwise_cons.2 ⟨first, others⟩
    · next different =>
      split
      · next less =>
        refine List.pairwise_cons.2 ⟨fun entry inside => ?_, increasing⟩
        rcases List.mem_cons.1 inside with rfl | inside
        · exact less
        · exact String.lt_trans less (first entry inside)
      · next notLess =>
        refine List.pairwise_cons.2 ⟨fun entry inside => ?_, ih others⟩
        rcases mem_place inside with same | inside
        · exact same ▸ lt_of_other different notLess
        · exact first entry inside

def empty : Dictionary α := ⟨[], List.Pairwise.nil⟩

instance : Inhabited (Dictionary α) := ⟨empty⟩

/-- Write a value under a name. -/
def insert (dictionary : Dictionary α) (name : String) (value : α) : Dictionary α :=
  ⟨place name value dictionary.entries, increasing_place name value dictionary.increasing⟩

/-- The dictionary of entries written one after the other: the last value of a
repeated name stays. -/
def ofList (entries : List (String × α)) : Dictionary α :=
  entries.foldl (fun dictionary (name, value) => dictionary.insert name value) empty

/-- The value under a name. -/
def get? (dictionary : Dictionary α) (name : String) : Option α :=
  (dictionary.entries.find? fun entry => entry.1 == name).map Prod.snd

def isEmpty (dictionary : Dictionary α) : Bool := dictionary.entries.isEmpty

theorem place_of_all_less {name : String} {value : α} {entries : List (String × α)}
    (below : ∀ entry ∈ entries, entry.1 < name) :
    place name value entries = entries ++ [(name, value)] := by
  induction entries with
  | nil => rfl
  | cons head rest ih =>
    obtain ⟨known, old⟩ := head
    have less : known < name := below (known, old) (by simp)
    have different : name ≠ known := fun same => String.lt_irrefl known (same ▸ less)
    have notLess : ¬ name < known := fun greater =>
      String.lt_irrefl known (String.lt_trans less greater)
    simp [place, different, notLess, ih fun entry inside => below entry (by simp [inside])]

private theorem foldl_insert (entries : List (String × α)) (start : Dictionary α)
    (increasing : (start.entries ++ entries).Pairwise fun a b => a.1 < b.1) :
    (entries.foldl (fun dictionary (name, value) => dictionary.insert name value) start).entries =
      start.entries ++ entries := by
  induction entries generalizing start with
  | nil => simp
  | cons entry rest ih =>
    obtain ⟨name, value⟩ := entry
    have step : (start.insert name value).entries = start.entries ++ [(name, value)] :=
      place_of_all_less fun other inside =>
        (List.pairwise_append.1 increasing).2.2 other inside (name, value) (by simp)
    rw [List.foldl_cons, ih (start.insert name value) (by simpa [step] using increasing), step]
    simp

/-- Writing the entries of a dictionary again gives the dictionary. -/
@[simp] theorem ofList_entries (dictionary : Dictionary α) :
    ofList dictionary.entries = dictionary := by
  have same := foldl_insert dictionary.entries empty (by simpa [empty] using dictionary.increasing)
  cases shape : ofList dictionary.entries
  cases dictionary
  simp_all [ofList, empty]

/-- The entries are what can be found. -/
theorem get?_eq_some_iff {dictionary : Dictionary α} {name : String} {value : α} :
    dictionary.get? name = some value ↔ (name, value) ∈ dictionary.entries := by
  obtain ⟨entries, increasing⟩ := dictionary
  simp only [get?, Option.map_eq_some_iff, List.find?_eq_some_iff_append]
  constructor
  · rintro ⟨⟨found, _⟩, ⟨same, before, behind, rfl, _⟩, rfl⟩
    simp [(beq_iff_eq.1 same).symm]
  · intro inside
    obtain ⟨before, behind, rfl⟩ := List.append_of_mem inside
    refine ⟨(name, value), ⟨by simp, before, behind, rfl, fun entry earlier => ?_⟩, rfl⟩
    have less := (List.pairwise_append.1 increasing).2.2 entry earlier (name, value) (by simp)
    have other : entry.1 ≠ name := fun same => String.lt_irrefl name (same ▸ less)
    simpa using other

end Dictionary
end Polyquery
