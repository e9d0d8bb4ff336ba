import Polyquery.Proofs.CategoryOrder
import Polyquery.Proofs.Fields
import Polyquery.Wire.Filters

/-! Filters on the wire. The document of filters is grouped by categories, and so is the
list that is read of it. What is written of a list of filters is read back as the same
list, stably sorted by category; so what has been read once is read back unchanged. -/
namespace Polyquery
open Json

/-! ## Payloads -/

/-- The JSON values in a test. -/
def Test.values {α : Type} : Test α → List α
  | .oneOf values | .contains values | .notContains values | .containsAny values => values
  | .string value | .fuzzy value | .equal value | .notEqual value => [value]
  | .range low high => low.toList ++ high.toList
  | .empty | .notEmpty => []

/-- A test whose payload says what it is: a text test is about a text, and a bound that
is there is not written like an open one. -/
def Test.Plain : Test Json → Prop
  | .string value | .fuzzy value => ∃ text, value = .string text
  | .range low high => ∀ bound ∈ low.toList ++ high.toList, bound ≠ .null ∧ bound ≠ .object []
  | .oneOf _ | .equal _ | .notEqual _ | .empty | .notEmpty | .contains _ | .notContains _
  | .containsAny _ => True

namespace Wire

/-- A bound is taken as it is, unless it stands for an open one. -/
theorem asBound_some {bound : Json} (given : bound ≠ .null ∧ bound ≠ .object []) :
    asBound (some bound) = some bound := by
  cases bound with
  | null => exact absurd rfl given.1
  | object members =>
    cases members with
    | nil => exact absurd rfl given.2
    | cons member rest => rfl
  | _ => rfl

theorem asBound_eq_some {found : Option Json} {bound : Json} (read : asBound found = some bound) :
    found = some bound ∧ bound ≠ .null ∧ bound ≠ .object [] := by
  cases found with
  | none => cases read
  | some given =>
    cases given with
    | null => cases read
    | object members =>
      cases members with
      | nil => cases read
      | cons member rest =>
        cases read
        exact ⟨rfl, nofun, nofun⟩
    | _ =>
      cases read
      exact ⟨rfl, nofun, nofun⟩

/-- A plain test is read back from its payload. -/
theorem testOf_payloadOf {test : Test Json} (plain : test.Plain) :
    testOf test.category (payloadOf test) = some test := by
  cases test with
  | string value | fuzzy value =>
    obtain ⟨text, rfl⟩ := plain
    rfl
  | range low high =>
    have own {bound : Option Json} (given : ∀ inner ∈ bound.toList, inner ≠ .null ∧ inner ≠ .object []) :
        asBound bound = bound := by
      cases bound with
      | none => rfl
      | some inner => exact asBound_some (given inner (by simp))
    have lowFound : member? "low" ([whenSome "low" low id, whenSome "high" high id].filterMap id) = low := by
      cases low <;> cases high <;> rfl
    have highFound : member? "high" ([whenSome "low" low id, whenSome "high" high id].filterMap id) =
        high := by
      cases low <;> cases high <;> rfl
    obtain ⟨lowGiven, highGiven⟩ := List.forall_mem_append.1 plain
    simp only [Test.category, testOf, payloadOf, object, lowFound, highFound, own lowGiven,
      own highGiven]
  | _ => rfl

theorem wellNamed_asList {payload : Json} (named : payload.WellNamed) :
    ∀ value ∈ asList payload, value.WellNamed := by
  cases payload with
  | array items => exact wellNamed_array.1 named
  | _ => exact List.forall_mem_singleton.2 named

theorem text_of_asText {payload value : Json} (read : asText payload = some value) :
    ∃ text, value = .string text := by
  cases payload <;> cases read <;> exact ⟨_, rfl⟩

/-- Whatever payload a test was read from, the test is plain and of the category. -/
theorem plain_of_testOf {category : Category} {payload : Json} {test : Test Json}
    (read : testOf category payload = some test) (named : payload.WellNamed) :
    test.category = category ∧ test.Plain ∧ ∀ value ∈ test.values, value.WellNamed := by
  cases category with
  | oneOf =>
    cases read
    exact ⟨rfl, trivial, wellNamed_asList named⟩
  | contains | notContains | containsAny =>
    simp only [testOf, Option.ite_none_left_eq_some] at read
    obtain ⟨_, same⟩ := read
    cases same
    exact ⟨rfl, trivial, wellNamed_asList named⟩
  | string | fuzzy =>
    obtain ⟨value, shown, rfl⟩ := Option.map_eq_some_iff.1 read
    obtain ⟨text, rfl⟩ := text_of_asText shown
    exact ⟨rfl, ⟨text, rfl⟩, List.forall_mem_singleton.2 trivial⟩
  | equal | notEqual =>
    cases read
    exact ⟨rfl, trivial, List.forall_mem_singleton.2 named⟩
  | empty | notEmpty =>
    cases read
    exact ⟨rfl, trivial, nofun⟩
  | range =>
    cases payload with
    | object bounds =>
      cases read
      -- A bound that is left was found among the members, and says something.
      have given (name : String) : ∀ bound ∈ (asBound (member? name bounds)).toList,
          (bound ≠ .null ∧ bound ≠ .object []) ∧ bound.WellNamed := by
        intro bound left
        obtain ⟨found, closed⟩ := asBound_eq_some (Option.mem_toList.1 left)
        obtain ⟨entry, member, rfl⟩ := Option.map_eq_some_iff.1 found
        exact ⟨closed, (wellNamed_object.1 named).2 entry (List.mem_of_find?_eq_some member)⟩
      refine ⟨rfl, ?_, ?_⟩
      · exact List.forall_mem_append.2 ⟨fun bound left => (given "low" bound left).1,
          fun bound left => (given "high" bound left).1⟩
      · exact List.forall_mem_append.2 ⟨fun bound left => (given "low" bound left).2,
          fun bound left => (given "high" bound left).2⟩
    | _ => cases read

/-- The payload of a test is well-named if its values are. -/
theorem wellNamed_payloadOf {test : Test Json} (named : ∀ value ∈ test.values, value.WellNamed) :
    (payloadOf test).WellNamed := by
  cases test with
  | oneOf values | contains values | notContains values | containsAny values =>
    exact wellNamed_array.2 named
  | string value | fuzzy value | equal value | notEqual value => exact named value List.mem_cons_self
  | empty | notEmpty => trivial
  | range low high =>
    obtain ⟨lowNamed, highNamed⟩ := List.forall_mem_append.1 named
    refine wellNamed_object.2 ⟨?_, fun member written => ?_⟩
    · cases low <;> cases high <;> simp [whenSome]
    · obtain ⟨bound, listed, found⟩ := List.mem_filterMap.1 written
      rcases List.mem_cons.1 listed with rfl | listed
      · obtain ⟨value, given, rfl⟩ := Option.map_eq_some_iff.1 found
        exact lowNamed value (Option.mem_toList.2 given)
      · rw [List.mem_singleton.1 listed] at found
        obtain ⟨value, given, rfl⟩ := Option.map_eq_some_iff.1 found
        exact highNamed value (Option.mem_toList.2 given)

end Wire

/-! ## Writing and reading back -/

/-- Filters that can be told apart and understood from what is written of them. The JSON
in them is as any reader makes it: no object names a member twice. -/
structure Filters.Sendable (filters : Filters Json) : Prop where
  apart : (filters.list.map fun filter => (filter.category, filter.key)).Nodup
  plain : ∀ filter ∈ filters.list, filter.test.Plain
  wellNamed : ∀ filter ∈ filters.list, ∀ value ∈ filter.test.values, value.WellNamed

namespace Wire

variable {filters : Filters Json}

/-- No entry of a category is overwritten by another. -/
theorem entries_entriesOf (sendable : filters.Sendable) (category : Category) :
    (entriesOf category filters.list).entries = (filtersIn category filters.list).map fun filter =>
      (filter.key, payloadOf filter.test) := by
  refine Record.entries_ofList ?_
  have inCategory : ((filtersIn category filters.list).map Filter.key).map (fun key => (category, key)) =
      (filtersIn category filters.list).map fun filter => (filter.category, filter.key) := by
    rw [List.map_map]
    refine List.map_congr_left fun filter listed => ?_
    rw [Function.comp_apply, (mem_filtersIn.1 listed).2]
  have distinct : ((filtersIn category filters.list).map fun filter =>
      (filter.category, filter.key)).Nodup := (List.filter_sublist.map _).nodup sendable.apart
  rw [← inCategory] at distinct
  have keys := List.Nodup.of_map _ distinct
  rw [List.map_map]
  exact keys

/-- The filters of a category are read back from its entries. -/
theorem filtersOf_entriesOf (sendable : filters.Sendable) (category : Category) :
    filtersOf category (entriesOf category filters.list) = filtersIn category filters.list := by
  have each : ∀ filter ∈ filtersIn category filters.list,
      (testOf category (payloadOf filter.test)).map (fun test => Filter.mk filter.key test) =
        some filter := by
    intro filter listed
    obtain ⟨inside, same⟩ := mem_filtersIn.1 listed
    rw [← same, Filter.category, testOf_payloadOf (sendable.plain filter inside)]
    rfl
  rw [filtersOf, entries_entriesOf sendable, List.filterMap_map]
  exact (List.filterMap_congr each).trans List.filterMap_some

/-- The entries of a category, if it has any. -/
def entriesOf? (category : Category) (list : List (Filter Json)) : Option (Record Json) :=
  if (entriesOf category list).isEmpty then none else some (entriesOf category list)

theorem entriesOf?_back (sendable : filters.Sendable) (category : Category) :
    optional (record json)
      ((entriesOf? category filters.list).map fun entries => .ofJson (ofRecord entries)) =
        some (entriesOf? category filters.list) := by
  refine optional_back fun entries given => ⟨record_back ?_, nofun⟩
  have same : entriesOf category filters.list = entries := by
    unfold entriesOf? at given
    split at given
    · cases given
    · exact Option.some.inj given
  rw [← same, entries_entriesOf sendable]
  intro entry listed
  obtain ⟨filter, inside, rfl⟩ := List.mem_map.1 listed
  exact wellNamed_payloadOf (sendable.wellNamed filter (mem_filtersIn.1 inside).1)

theorem filtersOf_entriesOf? (category : Category) (list : List (Filter Json)) :
    filtersOf category ((entriesOf? category list).getD .empty) =
      filtersOf category (entriesOf category list) := by
  unfold entriesOf?
  split
  · next none =>
    have nothing : (entriesOf category list).entries = [] := List.isEmpty_iff.1 none
    simp [filtersOf, nothing, Record.empty]
  · rfl

/-- The names that the members of filters go by. -/
def filterNames : List (List String) := ["allOr"] :: Category.all.map fun category => [category.name]

theorem filterNames_apart : Apart filterNames := by decide

/-- What is written of filters is read as their list sorted by category. -/
theorem filters_back (sendable : filters.Sendable) :
    Wire.filters (.ofJson (ofFilters filters)) = some ⟨filters.anyOf, byCategory filters.list⟩ := by
  let member (category : Category) : Option (String × Json) :=
    whenSome category.name (entriesOf? category filters.list) ofRecord
  let anyOf : Option (String × Json) := if filters.anyOf then always "allOr" (.bool true) else none
  have shape : ofFilters filters = object (anyOf :: Category.all.map member) := by
    refine congrArg object (congrArg (anyOf :: ·) (List.map_congr_left fun category _ => ?_))
    simp only [member, entriesOf?]
    split <;> rfl
  have answered : List.Forall₂ Answers filterNames (anyOf :: Category.all.map member) := by
    refine .cons ?_ (List.forall₂_map_left_iff.2 (List.forall₂_map_right_iff.2
      (List.forall₂_same.2 fun category _ => answers_whenSome _ _ List.mem_cons_self)))
    cases given : filters.anyOf
    · simp [anyOf, given, Answers]
    · simp [anyOf, given]
  have found : fields filterNames (.ofJson (ofFilters filters)) =
      some (documentOf anyOf :: Category.all.map fun category => documentOf (member category)) := by
    rw [shape, fields_object filterNames_apart answered, List.map_cons, List.map_map]
    rfl
  have all : defaulted false bool (documentOf anyOf) = some filters.anyOf := by
    simp only [anyOf]
    cases filters.anyOf <;> rfl
  have entries : (Category.all.map fun category => documentOf (member category)).mapM
      (optional (record json)) = some (Category.all.map fun category => entriesOf? category filters.list) := by
    refine mapM_eq_some_iff.2 (List.forall₂_map_left_iff.2 (List.forall₂_map_right_iff.2
      (List.forall₂_same.2 fun category _ => ?_)))
    rw [documentOf_whenSome]
    exact entriesOf?_back sendable category
  have list : (Category.all.zip (Category.all.map fun category => entriesOf? category filters.list)).flatMap
      (fun part => filtersOf part.1 (part.2.getD .empty)) = byCategory filters.list := by
    rw [← List.map_prod_left_eq_zip, List.flatMap_map, byCategory_eq]
    refine List.flatMap_congr fun category _ => ?_
    exact (filtersOf_entriesOf? category filters.list).trans (filtersOf_entriesOf sendable category)
  have named : fields (["allOr"] :: Category.all.map fun category => [category.name])
      (.ofJson (ofFilters filters)) = _ := found
  simp only [Wire.filters, named, Option.bind_eq_bind, Option.bind_some, all, entries, list]

/-! ## What is read -/

/-- What a document of filters says of a category: the member of its name, or in an
array of fields the item at its place behind the first. -/
def categoryPart (document : Document) (category : Category) : Option Document :=
  match document with
  | .object members => (members.find? fun member => member.1 == category.name).map Prod.snd
  | .array items => items[category.place + 1]?
  | _ => none

/-- The names of the members of a document, in the order in which they first come. -/
def memberNames : Document → List String
  | .object members => (members.map Prod.fst).eraseDups
  | _ => []

/-- The items of an array, and nothing for the fields behind them. -/
theorem padded_eq_map {α : Type} (items : List α) {count : Nat} (fits : items.length ≤ count) :
    items.map some ++ List.replicate (count - items.length) none =
      (List.range count).map fun i => items[i]? := by
  refine List.ext_getElem (by simp; omega) fun i short _ => ?_
  by_cases inside : i < items.length
  · simp [inside]
  · simp [List.getElem_append, inside]

/-- What the reader of filters is given of each category. -/
theorem categories_of_fields {document : Document} {first : Option Document}
    {categories : List (Option Document)}
    (found : fields filterNames document = some (first :: categories)) :
    categories = Category.all.map (categoryPart document) := by
  cases document with
  | object members =>
    obtain ⟨_, each⟩ := List.forall₂_cons.1 (mapM_eq_some_iff.1 found)
    rw [List.forall₂_map_left_iff] at each
    refine eq_map_of_forall₂ (each.imp fun category part one => ?_)
    have filtered : (members.filter fun entry => [category.name].contains entry.1) =
        members.filter fun entry => entry.1 == category.name :=
      List.filter_congr fun entry _ => by rw [Bool.eq_iff_iff]; simp
    rw [filtered] at one
    rw [categoryPart, ← List.head?_filter]
    split at one
    · next none =>
      cases one
      rw [none]
      rfl
    · next name inner single =>
      cases one
      rw [single]
      rfl
    · cases one
  | array items =>
    simp only [fields, Option.ite_none_right_eq_some, Option.some.injEq] at found
    obtain ⟨fits, padded⟩ := found
    rw [padded_eq_map items fits] at padded
    have count : filterNames.length = 12 := rfl
    rw [count, List.range_succ_eq_map, List.map_cons, List.map_map, List.cons.injEq] at padded
    have places : Category.all.map Category.place = List.range 11 := by decide
    rw [← padded.2, ← places, List.map_map]
    rfl
  | _ => cases found

/-- The entries of a category as they are read. -/
def entriesIn (document : Document) (category : Category) : Record Json :=
  ((optional (record json) (categoryPart document category)).getD none).getD .empty

/-- The list that is read is the list of its categories, each read of its part. -/
theorem list_of_filters {document : Document} (read : Wire.filters document = some filters) :
    filters.list = Category.all.flatMap fun category =>
      filtersOf category (entriesIn document category) := by
  simp only [Wire.filters, Option.bind_eq_bind, Option.bind_eq_some_iff] at read
  obtain ⟨found, given, read⟩ := read
  cases found with
  | nil => cases read
  | cons first categories =>
    simp only [Option.bind_eq_some_iff] at read
    obtain ⟨anyOf, _, entries, each, same⟩ := read
    cases same
    have parts := categories_of_fields given
    rw [parts, mapM_eq_some_iff, List.forall₂_map_left_iff] at each
    have known : entries = Category.all.map fun category =>
        (optional (record json) (categoryPart document category)).getD none :=
      eq_map_of_forall₂ (each.imp fun category entry one => by rw [one, Option.getD_some])
    simp only [known, ← List.map_prod_left_eq_zip, List.flatMap_map]
    rfl

theorem keys_filtersOf (category : Category) (entries : Record Json) :
    ((filtersOf category entries).map Filter.key).Sublist entries.keys := by
  have kept (list : List (String × Json)) : ((list.filterMap fun entry =>
      (testOf category entry.2).map fun test => Filter.mk entry.1 test).map Filter.key).Sublist
        (list.map Prod.fst) := by
    induction list with
    | nil => exact .slnil
    | cons entry rest ih =>
      obtain ⟨key, payload⟩ := entry
      cases tested : testOf category payload with
      | none => simpa [tested] using ih.cons key
      | some test => simpa [tested] using ih.cons_cons key
  exact kept entries.entries

theorem plain_of_filtersOf {category : Category} {entries : Record Json}
    (named : ∀ entry ∈ entries.entries, entry.2.WellNamed) :
    ∀ filter ∈ filtersOf category entries, filter.category = category ∧ filter.test.Plain ∧
      ∀ value ∈ filter.test.values, value.WellNamed := by
  intro filter listed
  obtain ⟨entry, written, read⟩ := List.mem_filterMap.1 listed
  obtain ⟨test, tested, rfl⟩ := Option.map_eq_some_iff.1 read
  exact plain_of_testOf tested (named entry written)

/-- The entries of a category are those of a record in the document, or there are none. -/
theorem entriesIn_eq (document : Document) (category : Category) :
    entriesIn document category = .empty ∨ ∃ part, categoryPart document category = some part ∧
      record json part = some (entriesIn document category) := by
  unfold entriesIn
  cases given : categoryPart document category with
  | none => exact .inl rfl
  | some part =>
    cases read : optional (record json) (some part) with
    | none => exact .inl rfl
    | some entries =>
      cases entries with
      | none => exact .inl rfl
      | some entries =>
        refine .inr ⟨part, rfl, ?_⟩
        cases part with
        | null => cases read
        | _ => simpa [optional, nullable] using read

theorem entriesIn_wellNamed (document : Document) (category : Category) :
    ∀ entry ∈ (entriesIn document category).entries, entry.2.WellNamed := by
  rcases entriesIn_eq document category with none | ⟨part, _, read⟩
  · rw [none]
    exact nofun
  · exact wellNamed_of_record read

/-- The entries of a category come in the order of the document. -/
theorem keys_entriesIn (document : Document) (category : Category) :
    (entriesIn document category).keys.Sublist
      ((categoryPart document category).elim [] memberNames) := by
  rcases entriesIn_eq document category with none | ⟨part, given, read⟩
  · rw [none]
    exact List.nil_sublist _
  · obtain ⟨members, inside, same⟩ := Option.map_eq_some_iff.1 read
    rw [← same, given, Option.elim_some, Record.keys_ofList]
    cases part with
    | object entries =>
      rw [names_of_members inside]
      exact List.Sublist.refl _
    | _ => cases inside

section
variable {document : Document} (read : Wire.filters document = some filters)
include read

theorem part_of_read {filter : Filter Json} (listed : filter ∈ filters.list) :
    filter ∈ filtersOf filter.category (entriesIn document filter.category) ∧ filter.test.Plain ∧
      ∀ value ∈ filter.test.values, value.WellNamed := by
  rw [list_of_filters read] at listed
  obtain ⟨category, _, inside⟩ := List.mem_flatMap.1 listed
  obtain ⟨same, plain⟩ := plain_of_filtersOf (entriesIn_wellNamed document category) filter inside
  subst same
  exact ⟨inside, plain⟩

/-- Of each category, the list has what the document says of it. -/
theorem filtersIn_of_read (category : Category) :
    filtersIn category filters.list = filtersOf category (entriesIn document category) := by
  have own (other : Category) : (filtersOf other (entriesIn document other)).filter
      (fun filter => filter.category == category) =
        if other = category then filtersOf other (entriesIn document other) else [] := by
    have its (filter : Filter Json) (listed : filter ∈ filtersOf other (entriesIn document other)) :=
      (plain_of_filtersOf (entriesIn_wellNamed document other) filter listed).1
    split
    · next same => exact List.filter_eq_self.2 fun filter listed => by simp [its filter listed, same]
    · next different =>
      exact List.filter_eq_nil_iff.2 fun filter listed => by simp [its filter listed, different]
  rw [filtersIn, list_of_filters read, List.filter_flatMap]
  simp only [own]
  cases category <;> simp [Category.all]

theorem byCategory_of_read : byCategory filters.list = filters.list := by
  conv => rhs; rw [list_of_filters read]
  rw [byCategory_eq]
  exact List.flatMap_congr fun category _ => filtersIn_of_read read category

/-- The filters that are read can be sent again. -/
theorem sendable_of_read : filters.Sendable where
  apart := by
    have each (category : Category) : ((filtersIn category filters.list).map fun filter =>
        (filter.category, filter.key)).Nodup := by
      have keys : ((filtersIn category filters.list).map Filter.key).Nodup := by
        rw [filtersIn_of_read read]
        exact (keys_filtersOf category _).nodup (entriesIn document category).distinct
      have second : ((filtersIn category filters.list).map fun filter =>
          (filter.category, filter.key)).map Prod.snd =
            (filtersIn category filters.list).map Filter.key := by
        rw [List.map_map]
        rfl
      exact List.Nodup.of_map Prod.snd (second ▸ keys)
    rw [← byCategory_of_read read, byCategory_eq, List.map_flatMap, List.nodup_flatMap]
    refine ⟨fun category _ => each category, ?_⟩
    refine Category.all_increasing.imp fun {a b} before => ?_
    intro pair first second
    obtain ⟨filter, listed, rfl⟩ := List.mem_map.1 first
    obtain ⟨other, otherListed, same⟩ := List.mem_map.1 second
    have categories : other.category = filter.category := congrArg Prod.fst same
    rw [(mem_filtersIn.1 listed).2, (mem_filtersIn.1 otherListed).2] at categories
    rw [categories] at before
    exact Nat.lt_irrefl _ before
  plain filter listed := (part_of_read read listed).2.1
  wellNamed filter listed := (part_of_read read listed).2.2

end

end Wire

/-- Filters survive their wire form. What is read of a document is grouped by category
in the fixed order, with the keys of a category in the order of the document and none
of them twice, and it is read back unchanged from what is written of it. Filters that
were put together in any order are read back stably sorted by category. -/
theorem filters_survive_wire :
    (∀ (document : Document) (filters : Filters Json), Wire.filters document = some filters →
      filters.list.Pairwise (fun a b => a.category.place ≤ b.category.place) ∧
      (∀ category, ((filtersIn category filters.list).map Filter.key).Sublist
        ((Wire.categoryPart document category).elim [] Wire.memberNames)) ∧
      (filters.list.map fun filter => (filter.category, filter.key)).Nodup ∧
      Wire.filters (.ofJson (Wire.ofFilters filters)) = some filters) ∧
    ∀ filters : Filters Json, filters.Sendable →
      Wire.filters (.ofJson (Wire.ofFilters filters)) =
        some ⟨filters.anyOf, byCategory filters.list⟩ := by
  refine ⟨fun document filters read => ?_, fun filters sendable => Wire.filters_back sendable⟩
  have sendable := Wire.sendable_of_read read
  have sorted := Wire.byCategory_of_read read
  refine ⟨sorted ▸ byCategory_sorted filters.list, fun category => ?_, sendable.apart, ?_⟩
  · rw [Wire.filtersIn_of_read read]
    exact (Wire.keys_filtersOf category _).trans (Wire.keys_entriesIn document category)
  · rw [Wire.filters_back sendable, sorted]

/-- A document that spells its filters in unusual ways: a single value for a list, a truth
value for a text, a key given twice, payloads and bounds that are nothing, and a member
that no reader knows. -/
def looseDocument : Document :=
  .object [("range", .object [("day", .object [("low", .object []), ("high", .string "friday")])]),
    ("contains", .null),
    ("string", .object [("name", .string "a"), ("code", .bool true), ("name", .string "b"),
      ("note", .null)]),
    ("remark", .unreadable),
    ("oneOf", .object [("state", .string "new")])]

/-- Filters that were not put together in the order of their categories. -/
def shuffledFilters : Filters Json :=
  ⟨true, [⟨"name", .fuzzy (.string "a")⟩, ⟨"state", .oneOf []⟩, ⟨"city", .fuzzy (.string "b")⟩,
    ⟨"name", .string (.string "a")⟩]⟩

theorem loose_and_shuffled_survive :
    (∃ filters, Wire.filters looseDocument = some filters ∧
      filters.list.map Filter.key = ["state", "name", "code", "day"] ∧
      Wire.filters (.ofJson (Wire.ofFilters filters)) = some filters) ∧
    shuffledFilters.Sendable ∧
    Wire.filters (.ofJson (Wire.ofFilters shuffledFilters)) =
      some ⟨true, [⟨"state", .oneOf []⟩, ⟨"name", .string (.string "a")⟩,
        ⟨"name", .fuzzy (.string "a")⟩, ⟨"city", .fuzzy (.string "b")⟩]⟩ := by
  have sendable : shuffledFilters.Sendable := by
    refine ⟨by decide +kernel, ?_, ?_⟩
    · simp [shuffledFilters, Test.Plain]
    · simp [shuffledFilters, Test.values, WellNamed]
  have read : Wire.filters looseDocument = some _ := rfl
  have sorted : byCategory shuffledFilters.list = [⟨"state", .oneOf []⟩,
      ⟨"name", .string (.string "a")⟩, ⟨"name", .fuzzy (.string "a")⟩,
      ⟨"city", .fuzzy (.string "b")⟩] := by
    rw [byCategory_eq]
    rfl
  refine ⟨⟨_, read, rfl, (filters_survive_wire.1 _ _ read).2.2.2⟩, sendable, ?_⟩
  rw [filters_survive_wire.2 _ sendable, sorted]
  rfl

end Polyquery
