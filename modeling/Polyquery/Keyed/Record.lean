/-! Records: values under distinct names, in the order in which the names first
came. Writing to a name that is already there changes its value and keeps its
place. Rows and JSON objects are of this kind. -/
namespace Polyquery

/-- Values under distinct names, in order of first appearance. -/
structure Record (α : Type) where
  entries : List (String × α)
  distinct : (entries.map Prod.fst).Nodup

namespace Record
variable {α β : Type}

instance [DecidableEq α] : DecidableEq (Record α) := fun a b =>
  if same : a.entries = b.entries then
    isTrue (by cases a; cases b; cases same; rfl)
  else
    isFalse fun equal => same (congrArg entries equal)

/-- The entries after a write: in place under a known name, else at the end. -/
def put (name : String) (value : α) : List (String × α) → List (String × α)
  | [] => [(name, value)]
  | (known, old) :: rest =>
    if known = name then (known, value) :: rest else (known, old) :: put name value rest

theorem keys_put (name : String) (value : α) (entries : List (String × α)) :
    (put name value entries).map Prod.fst =
      if name ∈ entries.map Prod.fst then entries.map Prod.fst
      else entries.map Prod.fst ++ [name] := by
  induction entries with
  | nil => simp [put]
  | cons entry rest ih =>
    obtain ⟨known, old⟩ := entry
    simp only [put]
    split
    · next same => simp [same]
    · next other =>
      simp only [List.map_cons, ih, List.mem_cons, Ne.symm other, false_or]
      split <;> simp

theorem nodup_put (name : String) (value : α) {entries : List (String × α)}
    (distinct : (entries.map Prod.fst).Nodup) :
    ((put name value entries).map Prod.fst).Nodup := by
  rw [keys_put]
  split
  · exact distinct
  · next fresh =>
    rw [List.nodup_append]
    exact ⟨distinct, by simp, fun a inside b last => by
      simp only [List.mem_singleton] at last
      exact fun same => fresh (last ▸ same ▸ inside)⟩

def empty : Record α := ⟨[], List.nodup_nil⟩

instance : Inhabited (Record α) := ⟨empty⟩

/-- Write a value under a name. -/
def insert (record : Record α) (name : String) (value : α) : Record α :=
  ⟨put name value record.entries, nodup_put name value record.distinct⟩

/-- The record of entries written one after the other: a repeated name keeps
its first place and its last value. -/
def ofList (entries : List (String × α)) : Record α :=
  entries.foldl (fun record (name, value) => record.insert name value) empty

/-- The value under a name. -/
def get? (record : Record α) (name : String) : Option α :=
  (record.entries.find? fun entry => entry.1 == name).map Prod.snd

def keys (record : Record α) : List String := record.entries.map Prod.fst

def isEmpty (record : Record α) : Bool := record.entries.isEmpty

/-- The same names with other values. -/
def mapValues (f : α → β) (record : Record α) : Record β :=
  ⟨record.entries.map fun (name, value) => (name, f value), by
    simpa [List.map_map, Function.comp_def] using record.distinct⟩

theorem put_of_not_mem {name : String} {value : α} {entries : List (String × α)}
    (fresh : name ∉ entries.map Prod.fst) : put name value entries = entries ++ [(name, value)] := by
  induction entries with
  | nil => rfl
  | cons entry rest ih =>
    obtain ⟨known, old⟩ := entry
    simp only [List.map_cons, List.mem_cons, not_or] at fresh
    simp [put, Ne.symm fresh.1, ih fresh.2]

private theorem foldl_insert (entries : List (String × α)) (start : Record α)
    (distinct : ((start.entries ++ entries).map Prod.fst).Nodup) :
    (entries.foldl (fun record (name, value) => record.insert name value) start).entries =
      start.entries ++ entries := by
  induction entries generalizing start with
  | nil => simp
  | cons entry rest ih =>
    obtain ⟨name, value⟩ := entry
    have fresh : name ∉ start.entries.map Prod.fst := by
      simp only [List.map_append, List.map_cons, List.nodup_append] at distinct
      intro inside
      exact distinct.2.2 _ inside name (by simp) rfl
    have step : (start.insert name value).entries = start.entries ++ [(name, value)] :=
      put_of_not_mem fresh
    rw [List.foldl_cons, ih (start.insert name value) (by simpa [step] using distinct), step]
    simp

/-- Distinct entries are kept as they are. -/
theorem entries_ofList {entries : List (String × α)}
    (distinct : (entries.map Prod.fst).Nodup) : (ofList entries).entries = entries := by
  have whole := foldl_insert entries empty (by simpa [empty] using distinct)
  exact whole

/-- The entries are what can be found. -/
theorem get?_eq_some_iff {record : Record α} {name : String} {value : α} :
    record.get? name = some value ↔ (name, value) ∈ record.entries := by
  obtain ⟨entries, distinct⟩ := record
  simp only [get?, Option.map_eq_some_iff, List.find?_eq_some_iff_append]
  constructor
  · rintro ⟨⟨found, _⟩, ⟨same, before, behind, rfl, _⟩, rfl⟩
    simp [(beq_iff_eq.1 same).symm]
  · intro inside
    obtain ⟨before, behind, rfl⟩ := List.append_of_mem inside
    refine ⟨(name, value), ⟨by simp, before, behind, rfl, fun entry earlier => ?_⟩, rfl⟩
    rw [List.map_append, List.nodup_append] at distinct
    have other := distinct.2.2 entry.1 (List.mem_map_of_mem earlier) name (by simp)
    simpa using other

/-- A write is found under its name, and leaves the other names as they are. -/
theorem get?_insert (record : Record α) (name other : String) (value : α) :
    (record.insert name value).get? other = if name = other then some value else record.get? other := by
  obtain ⟨entries, distinct⟩ := record
  simp only [insert, get?]
  clear distinct
  induction entries with
  | nil => by_cases same : name = other <;> simp [put, same]
  | cons entry rest ih =>
    obtain ⟨known, old⟩ := entry
    by_cases written : known = name
    · subst written
      by_cases same : known = other <;> simp [put, same]
    · by_cases first : known = other
      · subst first
        simp [put, written, Ne.symm written]
      · simpa [put, written, first] using ih

/-- What was there stays behind a write to a new name. -/
theorem get?_insert_of_new {record : Record α} {name other : String} {value old : α}
    (new : record.get? name = none) (found : record.get? other = some old) :
    (record.insert name value).get? other = some old := by
  have different : name ≠ other := by
    rintro rfl
    rw [new] at found
    cases found
  rw [get?_insert, if_neg different, found]

private theorem get?_foldl_insert (entries : List (String × α)) (start : Record α) (name : String) :
    (entries.foldl (fun record (name, value) => record.insert name value) start).get? name =
      ((ofList entries).get? name).or (start.get? name) := by
  induction entries generalizing start with
  | nil => rfl
  | cons entry rest ih =>
    obtain ⟨known, value⟩ := entry
    have alone : (ofList ((known, value) :: rest)).get? name =
        ((ofList rest).get? name).or ((empty.insert known value).get? name) := ih _
    rw [List.foldl_cons, ih, alone, get?_insert, get?_insert, Option.or_assoc]
    split <;> rfl

/-- Of entries written behind others, those behind are found first. -/
theorem get?_ofList_append (front behind : List (String × α)) (name : String) :
    (ofList (front ++ behind)).get? name = ((ofList behind).get? name).or ((ofList front).get? name) := by
  rw [ofList, List.foldl_append]
  exact get?_foldl_insert behind (ofList front) name

theorem get?_eq_none {record : Record α} {name : String} (unknown : name ∉ record.keys) :
    record.get? name = none := by
  rw [Option.eq_none_iff_forall_ne_some]
  intro value found
  exact unknown (List.mem_map_of_mem (get?_eq_some_iff.1 found))

theorem mem_put {name : String} {value : α} {entries : List (String × α)} {entry : String × α}
    (inside : entry ∈ put name value entries) : entry = (name, value) ∨ entry ∈ entries := by
  induction entries with
  | nil => exact .inl (List.mem_singleton.1 inside)
  | cons first rest ih =>
    obtain ⟨known, old⟩ := first
    by_cases same : known = name
    · subst same
      simp only [put, ↓reduceIte, List.mem_cons] at inside
      exact inside.imp_right (List.mem_cons_of_mem _)
    · simp only [put, same, ↓reduceIte, List.mem_cons] at inside
      rcases inside with rfl | later
      · exact .inr List.mem_cons_self
      · exact (ih later).imp_right (List.mem_cons_of_mem _)

private theorem mem_foldl_insert {entries : List (String × α)} {start : Record α} {entry : String × α}
    (inside : entry ∈
      (entries.foldl (fun record (name, value) => record.insert name value) start).entries) :
    entry ∈ start.entries ∨ entry ∈ entries := by
  induction entries generalizing start with
  | nil => exact .inl inside
  | cons first rest ih =>
    rcases ih inside with written | later
    · rcases mem_put written with rfl | earlier
      · exact .inr List.mem_cons_self
      · exact .inl earlier
    · exact .inr (List.mem_cons_of_mem _ later)

/-- A record has no other entries than those that were written. -/
theorem mem_of_mem_ofList {entries : List (String × α)} {entry : String × α}
    (inside : entry ∈ (ofList entries).entries) : entry ∈ entries :=
  (mem_foldl_insert inside).resolve_left List.not_mem_nil

private theorem keys_foldl_insert (entries : List (String × α)) (start : Record α) :
    (entries.foldl (fun record (name, value) => record.insert name value) start).keys =
      start.keys ++ ((entries.map Prod.fst).removeAll start.keys).eraseDups := by
  induction entries generalizing start with
  | nil => simp [List.removeAll]
  | cons first rest ih =>
    obtain ⟨name, value⟩ := first
    have keys : (start.insert name value).keys =
        if name ∈ start.keys then start.keys else start.keys ++ [name] := keys_put name value _
    rw [List.foldl_cons, ih, keys, List.map_cons]
    by_cases known : name ∈ start.keys
    · simp [known, List.removeAll]
    · have later (names : List String) : names.removeAll (start.keys ++ [name]) =
          (names.removeAll start.keys).filter (fun other => !other == name) := by
        simp only [List.removeAll, List.filter_filter]
        refine List.filter_congr fun other _ => ?_
        by_cases same : other = name <;> simp [same]
      have first : (name :: rest.map Prod.fst).removeAll start.keys =
          name :: (rest.map Prod.fst).removeAll start.keys := by simp [List.removeAll, known]
      rw [if_neg known, later, first, List.eraseDups_cons, List.append_assoc]
      rfl

/-- The names of a record come in the order in which they were first written. -/
theorem keys_ofList (entries : List (String × α)) :
    (ofList entries).keys = (entries.map Prod.fst).eraseDups := by
  have none (names : List String) : names.removeAll [] = names := by simp [List.removeAll]
  have keys := keys_foldl_insert entries empty
  have start : (empty : Record α).keys = [] := rfl
  rwa [start, none, List.nil_append] at keys

/-- Writing the entries of a record again gives the record. -/
@[simp] theorem ofList_entries (record : Record α) : ofList record.entries = record := by
  have same := entries_ofList record.distinct
  cases shape : ofList record.entries
  cases record
  simp_all

end Record
end Polyquery
