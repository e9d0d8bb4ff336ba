import Mathlib.Data.List.Forall2
import Polyquery.Proofs.JsonValues
import Polyquery.Wire.Decoder

/-! Reading back what was written. A structure is written as the object of its members;
its reader finds every member again, since no two fields share a name. Lists, records
and dictionaries are read back if their elements are. -/
namespace Polyquery.Wire
open Json

/-! ## Lists -/

/-- A list is read if each of its elements is. -/
theorem mapM_eq_some_iff {α β : Type} {f : α → Option β} {list : List α} {results : List β} :
    list.mapM f = some results ↔ List.Forall₂ (fun a b => f a = some b) list results := by
  induction list generalizing results with
  | nil => simp [eq_comm]
  | cons a rest ih =>
    simp only [List.mapM_cons, Option.bind_eq_bind, Option.bind_eq_some_iff, Option.pure_def,
      Option.some.injEq, ih, List.forall₂_cons_left_iff]
    constructor
    · rintro ⟨b, first, others, later, rfl⟩
      exact ⟨b, others, first, later, rfl⟩
    · rintro ⟨b, others, first, later, rfl⟩
      exact ⟨b, first, others, later, rfl⟩

/-- A list is read back if each of its elements is. -/
theorem mapM_map_self {α β : Type} {f : β → Option α} {g : α → β} {list : List α}
    (each : ∀ a ∈ list, f (g a) = some a) : (list.map g).mapM f = some list :=
  mapM_eq_some_iff.2 (List.forall₂_map_left_iff.2 (List.forall₂_same.2 each))

/-- Results that are functions of the elements are a mapped list. -/
theorem eq_map_of_forall₂ {α β : Type} {g : α → β} {list : List α} {results : List β}
    (each : List.Forall₂ (fun a b => g a = b) list results) : results = list.map g := by
  induction each with
  | nil => rfl
  | cons first _ ih => rw [List.map_cons, first, ih]

/-- Every result comes from an element. -/
theorem mem_of_forall₂ {α β : Type} {R : α → β → Prop} {list : List α} {results : List β}
    (each : List.Forall₂ R list results) : ∀ b ∈ results, ∃ a ∈ list, R a b := by
  induction each with
  | nil => exact nofun
  | cons first _ ih =>
    refine List.forall_mem_cons.2 ⟨⟨_, List.mem_cons_self, first⟩, fun b later => ?_⟩
    obtain ⟨a, listed, related⟩ := ih b later
    exact ⟨a, List.mem_cons_of_mem _ listed, related⟩

/-- Reading the values of a list of entries leaves the names as they are. -/
theorem names_of_mapM {α β : Type} (decode : α → Option β) {entries : List (String × α)}
    {values : List (String × β)}
    (read : (entries.mapM fun entry => (decode entry.2).map fun value => (entry.1, value)) =
      some values) : values.map Prod.fst = entries.map Prod.fst := by
  have each := mapM_eq_some_iff.1 read
  clear read
  induction each with
  | nil => rfl
  | cons first _ ih =>
    obtain ⟨value, _, rfl⟩ := Option.map_eq_some_iff.1 first
    rw [List.map_cons, List.map_cons, ih]

/-! ## Members -/

/-- A member that goes by one of the names of a field, or no member. -/
def Answers (aliases : List String) (member : Option (String × Json)) : Prop :=
  ∀ entry ∈ member, entry.1 ∈ aliases

@[simp] theorem answers_always {aliases : List String} {name : String} (value : Json)
    (listed : name ∈ aliases) : Answers aliases (always name value) := by
  rintro _ ⟨⟩
  exact listed

@[simp] theorem answers_whenSome {α : Type} {aliases : List String} {name : String} (value : Option α)
    (encode : α → Json) (listed : name ∈ aliases) : Answers aliases (whenSome name value encode) := by
  cases value with
  | none => exact nofun
  | some value => exact answers_always (encode value) listed

@[simp] theorem answers_unless {aliases : List String} {member : Option (String × Json)} {absent : Bool}
    (answers : Answers aliases member) : Answers aliases (if absent then none else member) := by
  cases absent
  · exact answers
  · exact nofun

/-- What a reader is given of a member. -/
def documentOf (member : Option (String × Json)) : Option Document :=
  member.map fun entry => .ofJson entry.2

@[simp] theorem documentOf_always (name : String) (value : Json) :
    documentOf (always name value) = some (.ofJson value) := rfl

@[simp] theorem documentOf_whenSome {α : Type} (name : String) (value : Option α) (encode : α → Json) :
    documentOf (whenSome name value encode) = value.map fun value => .ofJson (encode value) := by
  cases value <;> rfl

@[simp] theorem documentOf_unless (member : Option (String × Json)) (absent : Bool) :
    documentOf (if absent then none else member) = if absent then none else documentOf member := by
  cases absent <;> rfl

/-- The names of the fields keep apart. -/
def Apart (names : List (List String)) : Prop :=
  names.Pairwise fun aliases others => ∀ name ∈ aliases, name ∉ others

instance (names : List (List String)) : Decidable (Apart names) :=
  inferInstanceAs (Decidable (List.Pairwise _ _))

/-- Every field finds its own member among all members, and no other. -/
theorem own_members {names : List (List String)} {members : List (Option (String × Json))}
    (apart : Apart names) (answered : List.Forall₂ Answers names members) :
    List.Forall₂ (fun aliases member =>
      (members.filterMap id).filter (fun entry => aliases.contains entry.1) = member.toList)
        names members := by
  induction answered with
  | nil => exact .nil
  | @cons aliases member names members answers others ih =>
    obtain ⟨different, apart⟩ := List.pairwise_cons.1 apart
    -- Members of the other fields do not go by the names of this one.
    have elsewhere : (members.filterMap id).filter (fun entry => aliases.contains entry.1) = [] := by
      refine List.filter_eq_nil_iff.2 fun entry written => ?_
      obtain ⟨other, listed, found⟩ := List.mem_filterMap.1 written
      obtain ⟨otherAliases, named, its⟩ := mem_of_forall₂ others other listed
      have fresh := fun own => different otherAliases named entry.1 own (its entry found)
      simpa using fresh
    have here : member.toList.filter (fun entry => aliases.contains entry.1) = member.toList := by
      refine List.filter_eq_self.2 fun entry written => ?_
      simpa using answers entry (Option.mem_toList.1 written)
    have split : (member :: members).filterMap id = member.toList ++ members.filterMap id := by
      cases member <;> rfl
    refine .cons ?_ ?_
    · rw [split, List.filter_append, here, elsewhere, List.append_nil]
    · refine List.Forall₂.imp ?_ ((List.forall₂_and_left _ _).2 ⟨different, ih apart⟩)
      rintro otherAliases other ⟨foreign, own⟩
      have none : member.toList.filter (fun entry => otherAliases.contains entry.1) = [] := by
        refine List.filter_eq_nil_iff.2 fun entry written => ?_
        have fresh := foreign entry.1 (answers entry (Option.mem_toList.1 written))
        simpa using fresh
      rw [split, List.filter_append, none, own, List.nil_append]

/-- The members of a written structure are what its reader is given. -/
theorem fields_object {names : List (List String)} {members : List (Option (String × Json))}
    (apart : Apart names) (answered : List.Forall₂ Answers names members) :
    fields names (.ofJson (object members)) = some (members.map documentOf) := by
  rw [object, Document.ofJson, Document.ofMembers_eq_map, fields]
  refine mapM_eq_some_iff.2 (List.forall₂_map_right_iff.2 ?_)
  refine List.Forall₂.imp (fun aliases member own => ?_) (own_members apart answered)
  have found : ((members.filterMap id).map fun entry => (entry.1, Document.ofJson entry.2)).filter
      (fun entry => aliases.contains entry.1) =
        member.toList.map fun entry => (entry.1, Document.ofJson entry.2) := by
    rw [List.filter_map, ← own]
    rfl
  rw [found]
  cases member <;> rfl

/-! ## Values -/

/-- The value is read back from what it is written as, and it is not written as null. -/
structure ReadsBack {α : Type} (decode : Decoder α) (encode : α → Json) (value : α) : Prop where
  back : decode (.ofJson (encode value)) = some value
  notNull : encode value ≠ .null

section
variable {α : Type} {decode : Decoder α} {encode : α → Json}

theorem string_back (text : String) : ReadsBack string .string text := ⟨rfl, nofun⟩

@[simp] theorem string_ofJson (text : String) : string (.ofJson (.string text)) = some text := rfl

@[simp] theorem optional_string (value : Option String) :
    optional string (value.map fun text => .ofJson (.string text)) = some value := by
  cases value <;> rfl

theorem optional_back {value : Option α} (back : ∀ inner ∈ value, ReadsBack decode encode inner) :
    optional decode (value.map fun inner => .ofJson (encode inner)) = some value := by
  cases value with
  | none => rfl
  | some inner =>
    obtain ⟨read, notNull⟩ := back inner rfl
    have document : nullable decode (.ofJson (encode inner)) =
        (decode (.ofJson (encode inner))).map some := by
      cases written : encode inner with
      | null => exact absurd written notNull
      | _ => rfl
    rw [Option.map_some, optional, document, read, Option.map_some]

theorem list_back {values : List α} (back : ∀ value ∈ values, ReadsBack decode encode value) :
    list decode (.ofJson (.array (values.map encode))) = some values := by
  rw [Document.ofJson, Document.ofItems_eq_map, List.map_map, list]
  exact mapM_map_self fun value listed => (back value listed).back

theorem members_back {members : List (String × α)}
    (back : ∀ member ∈ members, ReadsBack decode encode member.2) :
    Wire.members decode (.ofJson (.object (members.map fun (name, value) => (name, encode value)))) =
      some members := by
  rw [Document.ofJson, Document.ofMembers_eq_map, List.map_map, Wire.members]
  refine mapM_map_self fun member listed => ?_
  have read := (back member listed).back
  simp [read]

theorem dictionary_back {values : Dictionary α}
    (back : ∀ entry ∈ values.entries, ReadsBack decode encode entry.2) :
    dictionary decode
      (.ofJson (.object (values.entries.map fun (name, value) => (name, encode value)))) =
        some values := by
  rw [dictionary, members_back back, Option.map_some, Dictionary.ofList_entries]

end

theorem record_back {row : Record Json} (named : ∀ entry ∈ row.entries, entry.2.WellNamed) :
    record json (.ofJson (ofRecord row)) = some row := by
  have read : members json (.ofJson (ofRecord row)) = some row.entries := by
    rw [ofRecord, Document.ofJson, Document.ofMembers_eq_map, members]
    refine mapM_map_self fun entry listed => ?_
    have inside := Document.toJson?_ofJson (named entry listed)
    simp [json, inside]
  rw [record, read, Option.map_some, Record.ofList_entries]

/-! ## What a reader can hand out -/

/-- What holds of all that is read of documents holds of the value of an optional field. -/
theorem of_optional {α : Type} {decode : Decoder α} {found : Option Document} {value : Option α}
    {P : α → Prop} (read : optional decode found = some value)
    (each : ∀ {document inner}, decode document = some inner → P inner) : ∀ inner ∈ value, P inner := by
  rintro inner rfl
  cases found with
  | none => cases read
  | some document =>
    have inside : decode document = some inner := by
      cases document with
      | null => cases read
      | _ => simpa [optional, nullable] using read
    exact each inside

theorem names_of_members {α : Type} {decode : Decoder α} {entries : List (String × Document)}
    {values : List (String × α)} (read : members decode (.object entries) = some values) :
    values.map Prod.fst = entries.map Prod.fst :=
  names_of_mapM decode read

/-- The values of a record that is read are as any reader makes them. -/
theorem wellNamed_of_record {document : Document} {row : Record Json}
    (read : record json document = some row) : ∀ entry ∈ row.entries, entry.2.WellNamed := by
  obtain ⟨members, inside, rfl⟩ := Option.map_eq_some_iff.1 read
  intro entry written
  cases document with
  | object entries =>
    obtain ⟨member, _, one⟩ := mem_of_forall₂ (mapM_eq_some_iff.1 inside) entry
      (Record.mem_of_mem_ofList written)
    obtain ⟨value, given, rfl⟩ := Option.map_eq_some_iff.1 one
    exact Document.wellNamed_of_toJson? given
  | _ => cases inside

end Polyquery.Wire
