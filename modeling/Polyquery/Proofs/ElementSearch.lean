import Polyquery.Proofs.ArrayTexts
import Polyquery.Proofs.FilterPasses
import Polyquery.Proofs.Meaning
import Polyquery.Proofs.Patterns

/-! What a search for elements finds. Where a dialect has no operator for arrays, an
element is looked for in the text of the array, in any case of letters: a number or a
truth value as it is written, a string with its quotes. That finds more than the elements
of the array. The digits of a number may be part of a longer number or of a string, and
the quotes around a string may be those of two others. -/
namespace Polyquery
open Sql Text Calendar

/-! ## What a predicate says -/

/-- The truth value of an answer; none is unknown. -/
def Sql.Truth.ofAnswer : Option Bool → Truth
  | some true => .yes
  | some false => .no
  | none => .unknown

/-- What a predicate says of a cell of its column. Each comparison is read off its own
tokens. -/
def Sql.Predicate.onCell (p : Predicate) (dialect : Dialect) (column : Sql) (cell : String) : Truth :=
  p.value (fun i => .ofAnswer ((p.leaves[i]?).bind fun leaf =>
    comparison? column cell (leaf.sql dialect))) 0

namespace Sql

/-- What answers mean together. -/
def Connective.ofAll (op : Connective) (answers : List Bool) : Bool :=
  match op with
  | .and => answers.all id
  | .or => answers.any id

theorem combine_answers (op : Connective) (a : Bool) (others : List Bool) :
    op.combine (.ofAnswer (some a)) (.ofAnswer (some (op.ofAll others))) =
      .ofAnswer (some (op.ofAll (a :: others))) := by
  cases op <;> simp only [Connective.ofAll, List.all_cons, List.any_cons]
  · cases a <;> cases others.all id <;> rfl
  · cases a <;> cases others.any id <;> rfl

/-- The truth value of parts that are leaves, if each has an answer. -/
theorem partsValue_answers {α : Type} {assign : Nat → Truth} {op : Connective} {list : List α}
    {part : α → Predicate} {answer : α → Bool} {first : Nat} (leaf : ∀ a, (part a).isLeaf = true)
    (answers : ∀ i a, list[i]? = some a → assign (first + i) = .ofAnswer (some (answer a))) :
    partsValue assign op first (list.map part) = .ofAnswer (some (op.ofAll (list.map answer))) := by
  induction list generalizing first with
  | nil => cases op <;> rfl
  | cons a rest ih =>
    have here : assign first = .ofAnswer (some (answer a)) := answers 0 a rfl
    have further : partsValue assign op (first + 1) (rest.map part) = _ := ih fun i next inside => by
      rw [Nat.add_assoc, Nat.add_comm 1]
      exact answers (i + 1) next inside
    rw [List.map_cons, partsValue, value_leaf assign first (leaf a), leaves_leaf (leaf a),
      List.length_singleton, further, here, combine_answers, List.map_cons]

variable {dialect : Dialect} {column : ColumnRef} {cell : String}

/-- What a group of comparisons with patterns says of a cell. -/
theorem onCell_patterns (folds : dialect.ignoresCase = false) (op : Connective) (patterns : List String) :
    (Predicate.group op (patterns.map fun pattern => .like column (.string pattern))).onCell dialect
        column.sql cell =
      .ofAnswer (some (op.ofAll (patterns.map fun pattern =>
        like pattern.toList (lower cell).toList))) := by
  have alone : (Predicate.group op (patterns.map fun pattern => .like column (.string pattern))).leaves =
      patterns.map fun pattern => .like column (.string pattern) := by
    rw [leaves_group, List.flatMap_map]
    exact List.map_eq_flatMap.symm
  rw [Predicate.onCell, value_group, alone]
  refine partsValue_answers (fun _ => rfl) fun i pattern inside => ?_
  rw [Nat.zero_add, List.getElem?_map, inside, Option.map_some, Option.bind_some, comparison?_like, folds]
  rfl

/-- What a test of elements says of a cell where it is made of patterns. -/
theorem onCell_containment (emulates : dialect.containment = .patterns) (values : List Json) (any : Bool) :
    (containment dialect column (values.map Value.ofJson) any).onCell dialect column.sql cell =
      .ofAnswer (some ((if any then Connective.or else .and).ofAll (values.map fun v =>
        like (elementPattern (Value.ofJson v)).toList (lower cell).toList))) := by
  have folds : dialect.ignoresCase = false := by
    cases dialect <;> cases emulates <;> rfl
  have group : containment dialect column (values.map Value.ofJson) any =
      .group (if any then .or else .and) ((values.map fun v => elementPattern (Value.ofJson v)).map
        fun pattern => .like column (.string pattern)) := by
    simp [containment, emulates, Function.comp_def]
  rw [group, onCell_patterns folds, List.map_map]
  rfl

theorem onCell_not (p : Predicate) :
    (Predicate.not p).onCell dialect column.sql cell = (p.onCell dialect column.sql cell).not := by
  rw [Predicate.onCell, value_not, leaves_not]
  rfl

end Sql

/-! ## Elements -/

namespace Json

/-- An element that can be looked for as it is: a number, a truth value, or a string that
is bound as it is and in which nothing is a wildcard or escaped. -/
def IsSearchable : Json → Prop
  | .number _ | .bool _ => True
  | .string s => Value.ofText s = .string s ∧ Tame s.toList ∧ Unescaped s.toList
  | .null | .array _ | .object _ => False

/-- What it means that an element is found among the items of an array. The text of a
number or truth value is part of the text of an item. A string is an item, or the end of
one behind a quote, or it is what stands between two items. Case makes no difference. -/
def FoundIn (items : List Json) : Json → Prop
  | .string s =>
    (∃ item, .string item ∈ items ∧ (lower item = lower s ∨
      ∃ before behind, item = before ++ "\"" ++ behind ∧ lower behind = lower s)) ∨
    StandsBetween items (lower s).toList
  | v => ∃ item ∈ items, (Value.ofJson v).display.toList <:+: (lower item.compact).toList

/-! ## Texts of arrays in lower case -/

theorem toList_lower_compact (json : Json) :
    (lower json.compact).toList = lowerAfter [] (compactChars json) := by
  rw [lower, compact, String.toList_ofList, String.toList_ofList]

/-- The marks around values end words, and they have no case. -/
theorem edges : ∀ c ∈ [',', '[', ']', '"'], EndsWords c ∧ Settled c := by
  have outside : ∀ c ∈ [',', '[', ']', '"'],
      casedRanges.toList.all (fun range => Nat.blt c.toNat range.1 || Nat.blt range.2 c.toNat) = true ∧
        ignorableRanges.toList.all
          (fun range => Nat.blt c.toNat range.1 || Nat.blt range.2 c.toNat) = true :=
    List.all_iff_forall_prop.1 (by decide +kernel)
  have ascii : ∀ c ∈ [',', '[', ']', '"'], Settled c :=
    List.all_iff_forall_prop.1 (by decide +kernel)
  intro c member
  obtain ⟨cased, ignorable⟩ := outside c member
  exact ⟨⟨inRanges_of_outside cased, inRanges_of_outside ignorable⟩, ascii c member⟩

/-- A text without commas and brackets is part of the text of an array if it is part of
the text of an item. -/
theorem infix_array {needle : List Char} (comma : ',' ∉ needle) (left : '[' ∉ needle) (right : ']' ∉ needle)
    (some : needle ≠ []) (items : List Json) :
    needle <:+: lowerAfter [] (compactChars (.array items)) ↔
      ∃ item ∈ items, needle <:+: lowerAfter [] (compactChars item) := by
  obtain ⟨commaEnds, commaSettled⟩ := edges ',' (by simp)
  obtain ⟨leftEnds, leftSettled⟩ := edges '[' (by simp)
  obtain ⟨rightEnds, rightSettled⟩ := edges ']' (by simp)
  have shape : compactChars (.array items) =
      [] ++ '[' :: (intersperse [','] (items.map compactChars) ++ ']' :: []) := by
    rw [compactChars_array]
    simp
  have nothing : ¬needle <:+: [] := by simpa using some
  have lowered : lowerAfter [] (compactChars (.array items)) = [] ++ '[' ::
      (intersperse [','] ((items.map compactChars).map (lowerAfter [])) ++ ']' :: []) := by
    rw [shape, lowerAfter_edge leftEnds, lowerAfter_edge rightEnds, leftSettled, rightSettled,
      lowerAfter_intersperse commaEnds commaSettled]
    simp [lowerAfter]
  rw [lowered, infix_separated left, infix_separated right, infix_intersperse comma some]
  simp [nothing]

/-- There is no letter in upper case between two strings. -/
theorem settled_between {items : List Json} {gap : List Char}
    (flat : ∀ item ∈ items, item.isFlat = true) (between : StandsBetween items gap) :
    ∀ c ∈ gap, Settled c := by
  have comma : Settled ',' := (edges ',' (by simp)).2
  have opens {items : List Json} {gap : List Char} (flat : ∀ item ∈ items, item.isFlat = true)
      (opens : OpensGap items gap) : ∀ c ∈ gap, Settled c := by
    induction opens with
    | next s rest => simpa using comma
    | further other opens ih =>
      obtain ⟨itemFlat, restFlat⟩ := List.forall_mem_cons.1 flat
      have own := settled_scalar (scalar_compactChars itemFlat other)
      intro c inside
      rcases List.mem_append.1 inside with front | further
      · rcases List.mem_cons.1 front with rfl | here
        · exact comma
        · exact own c here
      · exact ih restFlat c further
  induction between with
  | here s gapOpens => exact opens (List.forall_mem_cons.1 flat).2 gapOpens
  | further item between ih => exact ih (List.forall_mem_cons.1 flat).2

/-- A text in quotes is part of the text of an array if it is that of a string, or of the
end of one behind a quote, or if it stands between two strings. -/
theorem quoted_infix_array {items : List Json} {needle : List Char} (quote : '"' ∉ needle)
    (backslash : '\\' ∉ needle) (flat : ∀ item ∈ items, item.isFlat = true) :
    '"' :: (needle ++ ['"']) <:+: lowerAfter [] (compactChars (.array items)) ↔
      (∃ item, .string item ∈ items ∧ ∃ piece, Unescaped piece ∧ lowerAfter [] piece = needle ∧
        (item.toList = piece ∨ ∃ before, item.toList = before ++ '"' :: piece)) ∨
      StandsBetween items needle := by
  obtain ⟨ends, settled⟩ := edges '"' (by simp)
  have pieces : (segments '"' (lowerAfter [] (compactChars (.array items)))).tail.dropLast =
      (quotedPieces items).map (lowerAfter []) := by
    rw [segments_lowerAfter ends settled (by decide), ← segments_array flat, List.map_dropLast,
      List.map_tail]
  rw [separated_infix_iff quote, pieces, List.mem_map]
  constructor
  · rintro ⟨piece, inside, rfl⟩
    have free : '\\' ∉ piece := fun member => backslash (mem_lowerAfter (by decide +kernel) member)
    rcases mem_quotedPieces.1 inside with ⟨item, member, own⟩ | between
    · obtain ⟨unescaped, place⟩ := (mem_segments_escaped free).1 own
      exact .inl ⟨item, member, piece, unescaped, rfl, place⟩
    · rw [lowerAfter_of_settled (settled_between flat between)]
      exact .inr between
  · rintro (⟨item, member, piece, unescaped, rfl, place⟩ | between)
    · have free : '\\' ∉ piece := fun member => backslash (mem_lowerAfter (by decide +kernel) member)
      exact ⟨piece, mem_quotedPieces.2 (.inl ⟨item, member, (mem_segments_escaped free).2
        ⟨unescaped, place⟩⟩), rfl⟩
    · exact ⟨needle, mem_quotedPieces.2 (.inr between), lowerAfter_of_settled (settled_between flat between)⟩

/-! ## Searches -/

/-- Quotes, backslashes and control characters are escaped, and no others. -/
theorem escaped_of_plain {c : Char} (quote : c ≠ '"') (backslash : c ≠ '\\') (printed : 0x20 ≤ c.toNat) :
    escaped c = [c] := by
  have control (d : Char) (low : d.toNat < 0x20) : c ≠ d := by
    rintro rfl
    omega
  have short : ¬c.toNat < 0x20 := by omega
  simp only [escaped, quote, backslash, control '\x08' (by decide), control '\t' (by decide),
    control '\n' (by decide), control '\x0c' (by decide), control '\r' (by decide), short, ↓reduceIte]

/-- A text that is lower-cased like one without escapes has none. -/
theorem unescaped_of_lower {a b : List Char} (same : lowerAfter [] a = lowerAfter [] b)
    (unescaped : Unescaped b) : Unescaped a := by
  intro c inside
  by_contra mark
  have low : c.toNat ≤ 0x60 ∧ Settled c := by
    by_cases quote : c = '"'
    · rw [quote]
      decide +kernel
    by_cases backslash : c = '\\'
    · rw [backslash]
      decide +kernel
    by_cases printed : 0x20 ≤ c.toNat
    · exact absurd (escaped_of_plain quote backslash printed) mark
    · exact ⟨by omega, settled_of_ascii (by omega) (by omega)⟩
  have there : c ∈ lowerAfter [] b := same ▸ mem_lowerAfter low.2 inside
  exact mark (unescaped c (mem_of_mem_lowerAfter there low.1))

theorem tame_of_scalar {text : List Char} (scalar : Scalar text) : Tame text := by
  have plain : Tame scalarChars := by decide
  exact fun c inside => plain c (scalar c inside)

/-- A number or a truth value is bound as one. -/
theorem isScalar_ofJson {v : Json} (kind : (∃ n, v = .number n) ∨ ∃ b, v = .bool b) :
    (Value.ofJson v).IsScalar := by
  rcases kind with ⟨n, rfl⟩ | ⟨b, rfl⟩
  · cases bound : Value.ofJson (.number n) with
    | float x => exact isNaN_ofJson bound
    | bool | int => trivial
    | null | string | instant =>
      cases n with
      | int n =>
        simp only [Value.ofJson, Value.ofNumber] at bound
        split at bound <;> cases bound
      | float => cases bound
  · trivial

/-- The pattern of a number or a truth value finds its text in the text of an item. -/
theorem like_scalar {v : Json} (scalar : (Value.ofJson v).IsScalar) (items : List Json) :
    like (elementPattern (Value.ofJson v)).toList (lower (Json.array items).compact).toList = true ↔
      ∃ item ∈ items, (Value.ofJson v).display.toList <:+: (lower item.compact).toList := by
  have chars := scalar_display scalar
  have shape : (elementPattern (Value.ofJson v)).toList =
      '%' :: ((Value.ofJson v).display.toList ++ ['%']) := by
    cases bound : Value.ofJson v with
    | bool | int | float => simp [elementPattern]
    | null | string | instant => simp [bound, Value.IsScalar] at scalar
  have free (c : Char) (other : c ∉ scalarChars) : c ∉ (Value.ofJson v).display.toList :=
    fun inside => other (chars c inside)
  rw [shape, like_part (tame_of_scalar chars)]
  simp only [toList_lower_compact]
  exact infix_array (free _ (by decide)) (free _ (by decide)) (free _ (by decide))
    (display_ne_nil scalar) items

/-- The pattern of a string finds its text in quotes. -/
theorem like_string {s : String} (tame : Tame s.toList) (unescaped : Unescaped s.toList)
    {items : List Json} (flat : ∀ item ∈ items, item.isFlat = true) :
    like (elementPattern (.string s)).toList (lower (Json.array items).compact).toList = true ↔
      (Json.string s).FoundIn items := by
  have shape : (elementPattern (.string s)).toList =
      '%' :: (('"' :: ((lower s).toList ++ ['"'])) ++ ['%']) := by
    simp [elementPattern]
  have quoteTame : Tame ('"' :: ((lower s).toList ++ ['"'])) := by
    have own := tame_lower tame
    simpa [Tame, or_imp, forall_and] using own
  have free {c : Char} (mark : escaped c ≠ [c]) (low : c.toNat ≤ 0x60) : c ∉ (lower s).toList := by
    intro inside
    rw [lower, String.toList_ofList] at inside
    exact mark (unescaped c (mem_of_mem_lowerAfter inside low))
  rw [shape, like_part quoteTame, toList_lower_compact,
    quoted_infix_array (free (by decide) (by decide)) (free (by decide) (by decide)) flat, FoundIn]
  have sameLower (text : String) : lower text = lower s ↔ lowerAfter [] text.toList = (lower s).toList := by
    rw [← String.toList_inj, lower, String.toList_ofList]
  have lowered : (lower s).toList = lowerAfter [] s.toList := by rw [lower, String.toList_ofList]
  refine or_congr_left ⟨?_, ?_⟩
  · rintro ⟨item, member, piece, _, same, whole | ⟨before, ending⟩⟩
    · exact ⟨item, member, .inl ((sameLower item).2 (whole ▸ same))⟩
    · refine ⟨item, member, .inr ⟨String.ofList before, String.ofList piece, ?_, ?_⟩⟩
      · apply String.toList_inj.1
        simp [ending]
      · exact (sameLower _).2 (by rw [String.toList_ofList, same])
  · rintro ⟨item, member, same | ⟨before, behind, rfl, same⟩⟩
    · have equal := (sameLower item).1 same
      exact ⟨item, member, item.toList, unescaped_of_lower (equal.trans lowered) unescaped, equal, .inl rfl⟩
    · have equal := (sameLower behind).1 same
      exact ⟨_, member, behind.toList, unescaped_of_lower (equal.trans lowered) unescaped, equal,
        .inr ⟨before.toList, by simp⟩⟩

/-- The pattern of an element finds it in the sense of the text of the array. -/
theorem like_element {v : Json} (searchable : v.IsSearchable) {items : List Json}
    (flat : ∀ item ∈ items, item.isFlat = true) :
    like (elementPattern (Value.ofJson v)).toList (lower (Json.array items).compact).toList = true ↔
      v.FoundIn items := by
  cases v with
  | number n => exact like_scalar (isScalar_ofJson (.inl ⟨n, rfl⟩)) items
  | bool b => exact like_scalar (isScalar_ofJson (.inr ⟨b, rfl⟩)) items
  | string s =>
    obtain ⟨bound, tame, unescaped⟩ := searchable
    have value : Value.ofJson (.string s) = .string s := bound
    rw [value]
    exact like_string tame unescaped flat
  | null | array | object => cases searchable

end Json

/-- What the tests of arrays say of the text of an array without others in it, where
elements are looked for in texts: whether every element is found, whether one is not, and
whether one is found. -/
theorem element_search_finds (query : Query) {dialect : Dialect}
    (emulates : dialect.containment = .patterns) (key : String) {items values : List Json}
    (flat : ∀ item ∈ items, item.isFlat = true) (searchable : ∀ v ∈ values, v.IsSearchable)
    (some : values ≠ []) :
    ∃ every lacks any, query.translation? dialect ⟨key, .contains values⟩ = .some every ∧
      query.translation? dialect ⟨key, .notContains values⟩ = .some lacks ∧
      query.translation? dialect ⟨key, .containsAny values⟩ = .some any ∧
      let answer (p : Predicate) : Truth :=
        p.onCell dialect (query.filterColumn key).sql (Json.array items).compact
      (answer every = .yes ↔ ∀ v ∈ values, v.FoundIn items) ∧
      (answer lacks = .yes ↔ ¬∀ v ∈ values, v.FoundIn items) ∧
      (answer any = .yes ↔ ∃ v ∈ values, v.FoundIn items) := by
  obtain ⟨contains, notContains, containsAny⟩ := translation?_elements query dialect key some
  have finds (v : Json) (member : v ∈ values) := Json.like_element (searchable v member) flat
  have answered (b : Bool) : Truth.ofAnswer (.some b) = .yes ↔ b = true := by cases b <;> decide
  have negated (b : Bool) : (Truth.ofAnswer (.some b)).not = .yes ↔ ¬b = true := by cases b <;> decide
  have every : Connective.and.ofAll (values.map fun v => like (elementPattern (Value.ofJson v)).toList
      (lower (Json.array items).compact).toList) = true ↔ ∀ v ∈ values, v.FoundIn items := by
    simp only [Connective.ofAll, List.all_map, List.all_eq_true]
    exact forall₂_congr finds
  have any : Connective.or.ofAll (values.map fun v => like (elementPattern (Value.ofJson v)).toList
      (lower (Json.array items).compact).toList) = true ↔ ∃ v ∈ values, v.FoundIn items := by
    simp only [Connective.ofAll, List.any_map, List.any_eq_true]
    exact exists_congr fun v => and_congr_right fun member => finds v member
  refine ⟨_, _, _, contains, notContains, containsAny, ?_, ?_, ?_⟩
  · dsimp only
    rw [onCell_containment emulates, answered]
    exact every
  · dsimp only
    rw [onCell_not, onCell_containment emulates, negated]
    exact not_congr every
  · dsimp only
    rw [onCell_containment emulates, answered]
    exact any

/-- A label in another case of letters, and digits that stand in a longer number. -/
theorem label_and_digits_are_found :
    let persons := Query.plain "persons" .read
    let labels : List Json := [.string "VIP", .number (.int 17 (by decide)), .bool true]
    let sought : List Json := [.string "vip", .number (.int 7 (by decide))]
    Dialect.oracle.containment = .patterns ∧ (∀ item ∈ labels, item.isFlat = true) ∧
      (∀ v ∈ sought, v.IsSearchable) ∧ sought ≠ [] ∧
      ∃ every lacks, persons.translation? .oracle ⟨"labels", .contains sought⟩ = some every ∧
        persons.translation? .oracle ⟨"labels", .notContains sought⟩ = some lacks ∧
        every.onCell .oracle (persons.filterColumn "labels").sql "[\"VIP\",17,true]" = .yes ∧
        lacks.onCell .oracle (persons.filterColumn "labels").sql "[\"VIP\",17,true]" ≠ .yes := by
  intro persons labels sought
  have flat : ∀ item ∈ labels, item.isFlat = true := by simp [labels, Json.isFlat]
  have plain : Value.ofText "vip" = .string "vip" ∧ Tame "vip".toList ∧ Json.Unescaped "vip".toList := by
    decide +kernel
  have searchable : ∀ v ∈ sought, v.IsSearchable := by simpa [sought, Json.IsSearchable] using plain
  have given : sought ≠ [] := by simp [sought]
  have emulates : Dialect.oracle.containment = .patterns := rfl
  obtain ⟨every, lacks, _, translated, negated, _, found, missing, _⟩ :=
    element_search_finds persons emulates "labels" flat searchable given
  have text : Json.compact (.array labels) = "[\"VIP\",17,true]" := by decide +kernel
  rw [text] at found missing
  have label : (Json.string "vip").FoundIn labels :=
    .inl ⟨"VIP", by simp [labels], .inl (by decide +kernel)⟩
  have digits : (Json.number (.int 7 (by decide))).FoundIn labels :=
    ⟨.number (.int 17 (by decide)), by simp [labels], by decide +kernel⟩
  have all : ∀ v ∈ sought, v.FoundIn labels := by simp [sought, label, digits]
  exact ⟨rfl, flat, searchable, given, every, lacks, translated, negated, found.2 all,
    fun lacking => missing.1 lacking all⟩

/-- A value that is an item, or a string that is one in another case of letters. -/
def Json.OccursIn (items : List Json) (v : Json) : Prop :=
  v ∈ items ∨ ∃ item s, v = .string s ∧ .string item ∈ items ∧ lower item = lower s

/-- What is found need not be an element: the digits of a number may be part of a longer
one, and quotes that belong to two strings enclose the comma between them. -/
theorem digits_of_a_longer_number_found :
    let persons := Query.plain "persons" .read
    let seven : Json := .number (.int 7 (by decide))
    (∃ p, persons.translation? .sqlServer ⟨"tags", .contains [seven]⟩ = some p ∧
      p.onCell .sqlServer (persons.filterColumn "tags").sql "[17]" = .yes) ∧
    (∃ p, persons.translation? .sqlServer ⟨"tags", .contains [.string ","]⟩ = some p ∧
      p.onCell .sqlServer (persons.filterColumn "tags").sql "[\"x\",\"y\"]" = .yes) ∧
    ¬ ∀ (query : Query) (dialect : Dialect) (key : String) (items values : List Json) (p : Predicate),
      dialect.containment = .patterns →
      (∀ v ∈ items ++ values, v.isFlat = true ∧ v.isNull = false) → values ≠ [] →
      query.translation? dialect ⟨key, .contains values⟩ = some p →
      (p.onCell dialect (query.filterColumn key).sql (Json.array items).compact = .yes ↔
        ∀ v ∈ values, v.OccursIn items) := by
  intro persons seven
  have found : (∃ p, persons.translation? .sqlServer ⟨"tags", .contains [seven]⟩ = some p ∧
      p.onCell .sqlServer (persons.filterColumn "tags").sql "[17]" = .yes) :=
    ⟨_, rfl, by decide +kernel⟩
  refine ⟨found, ⟨_, rfl, by decide +kernel⟩, fun claimed => ?_⟩
  obtain ⟨p, translated, yes⟩ := found
  have text : Json.compact (.array [.number (.int 17 (by decide))]) = "[17]" := by decide +kernel
  have occurs := (claimed persons .sqlServer "tags" [.number (.int 17 (by decide))] [seven] p rfl
    (by simp [seven, Json.isFlat, Json.isNull]) (by simp) translated).1 (text ▸ yes) seven (by simp)
  simp [Json.OccursIn, seven] at occurs

end Polyquery
