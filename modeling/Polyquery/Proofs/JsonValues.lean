import Polyquery.Json.Document

/-! JSON values and the documents that say them. A reader never makes an object that
names a member twice, at no depth; and a value without such objects is read back from
the document that says it. -/
namespace Polyquery.Json

/-! ## Well-named values -/

mutual
/-- No object in the value names a member twice. -/
def WellNamed : Json → Prop
  | .null | .bool _ | .number _ | .string _ => True
  | .array items => ItemsWellNamed items
  | .object members => (members.map Prod.fst).Nodup ∧ MembersWellNamed members

def ItemsWellNamed : List Json → Prop
  | [] => True
  | item :: rest => WellNamed item ∧ ItemsWellNamed rest

def MembersWellNamed : List (String × Json) → Prop
  | [] => True
  | (_, value) :: rest => WellNamed value ∧ MembersWellNamed rest
end

theorem itemsWellNamed_iff {items : List Json} :
    ItemsWellNamed items ↔ ∀ item ∈ items, item.WellNamed := by
  induction items with
  | nil => simp [ItemsWellNamed]
  | cons item rest ih => simp [ItemsWellNamed, ih]

theorem membersWellNamed_iff {members : List (String × Json)} :
    MembersWellNamed members ↔ ∀ member ∈ members, member.2.WellNamed := by
  induction members with
  | nil => simp [MembersWellNamed]
  | cons member rest ih => simp [MembersWellNamed, ih]

theorem wellNamed_array {items : List Json} :
    (Json.array items).WellNamed ↔ ∀ item ∈ items, item.WellNamed := by
  rw [WellNamed, itemsWellNamed_iff]

theorem wellNamed_object {members : List (String × Json)} :
    (Json.object members).WellNamed ↔
      (members.map Prod.fst).Nodup ∧ ∀ member ∈ members, member.2.WellNamed := by
  rw [WellNamed, membersWellNamed_iff]

/-- A record names nothing twice, so only its values count. -/
theorem wellNamed_ofRecord {record : Record Json} :
    (ofRecord record).WellNamed ↔ ∀ entry ∈ record.entries, entry.2.WellNamed := by
  rw [ofRecord, wellNamed_object]
  exact and_iff_right record.distinct

/-! ## Documents -/

namespace Document

theorem ofItems_eq_map (items : List Json) : ofItems items = items.map ofJson := by
  induction items with
  | nil => rfl
  | cons item rest ih => rw [ofItems, ih, List.map_cons]

theorem ofMembers_eq_map (members : List (String × Json)) :
    ofMembers members = members.map fun member => (member.1, ofJson member.2) := by
  induction members with
  | nil => rfl
  | cons member rest ih => rw [ofMembers, ih, List.map_cons]

mutual
/-- What is read of a document is well-named: of members with one name the last one is
taken, at every depth. -/
theorem wellNamed_of_toJson? : ∀ {document : Document} {json : Json},
    document.toJson? = some json → json.WellNamed
  | .null, json, read | .bool _, json, read | .number _, json, read | .string _, json, read => by
    cases read
    trivial
  | .array items, json, read => by
    simp only [toJson?, Option.map_eq_some_iff] at read
    obtain ⟨values, inside, rfl⟩ := read
    exact wellNamed_array.2 (wellNamed_of_itemsToJson? inside)
  | .object members, json, read => by
    simp only [toJson?, Option.map_eq_some_iff] at read
    obtain ⟨values, inside, rfl⟩ := read
    exact wellNamed_ofRecord.2 fun entry written =>
      wellNamed_of_membersToJson? inside entry (Record.mem_of_mem_ofList written)
  | .unreadable, json, read => by cases read

theorem wellNamed_of_itemsToJson? : ∀ {items : List Document} {values : List Json},
    itemsToJson? items = some values → ∀ value ∈ values, value.WellNamed
  | [], values, read => by
    cases read
    exact nofun
  | item :: rest, values, read => by
    simp only [itemsToJson?, Option.bind_eq_bind, Option.bind_eq_some_iff] at read
    obtain ⟨first, here, others, behind, same⟩ := read
    cases same
    exact List.forall_mem_cons.2 ⟨wellNamed_of_toJson? here, wellNamed_of_itemsToJson? behind⟩

theorem wellNamed_of_membersToJson? : ∀ {members : List (String × Document)}
    {values : List (String × Json)},
    membersToJson? members = some values → ∀ value ∈ values, value.2.WellNamed
  | [], values, read => by
    cases read
    exact nofun
  | (name, document) :: rest, values, read => by
    simp only [membersToJson?, Option.bind_eq_bind, Option.bind_eq_some_iff] at read
    obtain ⟨first, here, others, behind, same⟩ := read
    cases same
    exact List.forall_mem_cons.2 ⟨wellNamed_of_toJson? here, wellNamed_of_membersToJson? behind⟩
end

mutual
/-- A well-named value is read back from the document that says it. -/
theorem toJson?_ofJson : ∀ {json : Json}, json.WellNamed → (ofJson json).toJson? = some json
  | .null, _ | .bool _, _ | .number _, _ | .string _, _ => rfl
  | .array items, named => by
    rw [ofJson, toJson?, itemsToJson?_ofItems (wellNamed_array.1 named)]
    rfl
  | .object members, named => by
    obtain ⟨distinct, inside⟩ := wellNamed_object.1 named
    rw [ofJson, toJson?, membersToJson?_ofMembers inside, Option.map_some, ofRecord,
      Record.entries_ofList distinct]

theorem itemsToJson?_ofItems : ∀ {items : List Json}, (∀ item ∈ items, item.WellNamed) →
    itemsToJson? (ofItems items) = some items
  | [], _ => rfl
  | item :: rest, named => by
    obtain ⟨first, others⟩ := List.forall_mem_cons.1 named
    simp only [ofItems, itemsToJson?, toJson?_ofJson first, itemsToJson?_ofItems others,
      Option.bind_eq_bind, Option.bind_some]

theorem membersToJson?_ofMembers : ∀ {members : List (String × Json)},
    (∀ member ∈ members, member.2.WellNamed) →
      membersToJson? (ofMembers members) = some members
  | [], _ => rfl
  | (name, value) :: rest, named => by
    obtain ⟨first, others⟩ := List.forall_mem_cons.1 named
    simp only [ofMembers, membersToJson?, toJson?_ofJson first, membersToJson?_ofMembers others,
      Option.bind_eq_bind, Option.bind_some]
end

end Document
end Polyquery.Json
