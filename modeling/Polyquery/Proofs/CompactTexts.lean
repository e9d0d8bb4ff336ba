import Polyquery.Proofs.ArrayTexts
import Polyquery.Proofs.JsonValues
import Polyquery.Proofs.WrittenNumbers

/-! Compact texts are read back. A string is read back from between its quotes, and a
value without others in it from its text, whatever comma or bracket ends it. The one thing
that the reader may change is a fractional number, because it rounds more than once; so
the text of an array is read as an array of what the texts of its items are read as. -/
namespace Polyquery.Json
open Decimal Text Sql

/-! ## Strings -/

/-- Units read in front of others. -/
def unitBefore (unit : Nat) (read : Option (List Nat × List Char)) : Option (List Nat × List Char) :=
  read.map fun (units, rest) => (unit :: units, rest)

theorem readUnits_letter {letter : Char} {unit : Nat} (value : escapeValue letter = some unit)
    (rest : List Char) : readUnits ('\\' :: letter :: rest) = unitBefore unit (readUnits rest) := by
  have other : letter ≠ 'u' := by
    rintro rfl
    cases value
  rw [readUnits, value]
  · cases readUnits rest <;> rfl
  · exact fun _ _ _ _ _ same => absurd same other

theorem readUnits_hex {a b c d : Char} {unit : Nat} (value : hexValue [a, b, c, d] = some unit)
    (rest : List Char) :
    readUnits ('\\' :: 'u' :: a :: b :: c :: d :: rest) = unitBefore unit (readUnits rest) := by
  rw [readUnits, value]
  cases readUnits rest <;> rfl

theorem readUnits_plain {c : Char} (quote : c ≠ '"') (backslash : c ≠ '\\') (printed : ¬c.toNat < 0x20)
    (rest : List Char) : readUnits (c :: rest) = unitBefore c.toNat (readUnits rest) := by
  rw [readUnits, if_neg printed]
  · cases readUnits rest <;> rfl
  · exact quote
  · exact fun _ _ _ _ _ same => absurd same backslash
  · exact fun _ _ same => absurd same backslash

/-- A character is read back from what it is escaped as. -/
theorem readUnits_escaped (c : Char) (rest : List Char) :
    readUnits (escaped c ++ rest) = unitBefore c.toNat (readUnits rest) := by
  have hex : ∀ n < 0x20, hexValue ['0', '0', Nat.digitChar (n / 16), Nat.digitChar (n % 16)] = some n := by
    decide
  unfold escaped
  split
  · next same =>
    subst same
    exact readUnits_letter rfl rest
  split
  · next same =>
    subst same
    exact readUnits_letter rfl rest
  split
  · next same =>
    subst same
    exact readUnits_letter rfl rest
  split
  · next same =>
    subst same
    exact readUnits_letter rfl rest
  split
  · next same =>
    subst same
    exact readUnits_letter rfl rest
  split
  · next same =>
    subst same
    exact readUnits_letter rfl rest
  split
  · next same =>
    subst same
    exact readUnits_letter rfl rest
  split
  · next control => exact readUnits_hex (hex c.toNat control) rest
  · next quote backslash _ _ _ _ _ printed => exact readUnits_plain quote backslash printed rest

theorem readUnits_quoted (text rest : List Char) :
    readUnits (text.flatMap escaped ++ '"' :: rest) = some (text.map Char.toNat, rest) := by
  induction text with
  | nil => simp [readUnits]
  | cons c more ih =>
    rw [List.flatMap_cons, List.append_assoc, readUnits_escaped, ih]
    rfl

/-- Characters are no surrogates. -/
theorem joinUnits_toNat (text : List Char) : joinUnits (text.map Char.toNat) = some text := by
  induction text with
  | nil => rfl
  | cons c rest ih =>
    have valid : c.toNat < 0xD800 ∨ 0xDFFF < c.toNat ∧ c.toNat < 0x110000 := c.valid
    have low : ¬(decide (0xDC00 ≤ c.toNat) && decide (c.toNat < 0xE000)) = true := by
      simp only [Bool.and_eq_true, decide_eq_true_eq]
      omega
    have high : ¬(decide (0xD800 ≤ c.toNat) && decide (c.toNat < 0xDC00)) = true := by
      simp only [Bool.and_eq_true, decide_eq_true_eq]
      omega
    rw [List.map_cons, joinUnits.eq_def]
    simp only [low, high, ih, Option.map_some, Char.ofNat_toNat]
    rfl

/-- A string is read back from between its quotes. -/
theorem readString_quoted (s : String) (rest : List Char) :
    readString (s.toList.flatMap escaped ++ '"' :: rest) = some (some s, rest) := by
  simp [readString, readUnits_quoted, joinUnits_toNat]

/-! ## Numbers -/

theorem print_int {n : Int} (inRange : InRange n) :
    (Number.int n inRange).print = Written.sign (decide (n < 0)) ++ (Written.ofNat n.natAbs).text := by
  rw [Number.print, toList_int]
  simp [Written.ofNat, Written.sign, Written.text, Written.fractionText, Written.powerText]

/-- An integer in range is read as the integer. -/
theorem ofNumeral?_int {n : Int} (inRange : InRange n) :
    Number.ofNumeral? (decide (n < 0)) (Nat.toDigits 10 n.natAbs) none none = some (.int n inRange) := by
  have zero : (decide (n < 0) && n.natAbs == 0) = false := by
    simp only [Bool.and_eq_false_iff, decide_eq_false_iff_not, beq_eq_false_iff_ne]
    omega
  have signed : (if decide (n < 0) = true then -(n.natAbs : Int) else n.natAbs) = n := by
    simp only [decide_eq_true_eq]
    split <;> omega
  simp only [Number.ofNumeral?, digitsValue_toDigits, zero, signed, Number.ofInt?, inRange, ↓reduceDIte]
  rfl

/-- A number is written with its sign in front. -/
theorem exists_number (n : Number) :
    ∃ (negative : Bool) (w : Written), n.print = Written.sign negative ++ w.text := by
  cases n with
  | int n inRange => exact ⟨_, _, print_int inRange⟩
  | float x finite =>
    obtain ⟨w, text, _⟩ := exists_print .json finite
    exact ⟨x.negative, w, text⟩

/-! ## Values -/

theorem skipSpaces_cons {c : Char} (mark : isSpace c = false) (rest : List Char) :
    skipSpaces (c :: rest) = c :: rest := by
  simp [skipSpaces, mark]

/-- What begins like a number is read as one. -/
theorem readValue_number {c : Char} (front : c ∈ "-0123456789".toList) (steps room : Nat) (rest : List Char) :
    readValue (steps + 1) room (c :: rest) = (readNumber (c :: rest)).bind fun (found, rest) =>
      some ((found.map Document.number).getD .unreadable, rest) := by
  have mark : ∀ c ∈ "-0123456789".toList, isSpace c = false ∧ c ≠ 'n' ∧ c ≠ 't' ∧ c ≠ 'f' ∧ c ≠ '"' ∧
      c ≠ '[' ∧ c ≠ '\x7b' := List.all_iff_forall_prop.1 (by decide)
  obtain ⟨space, null, true, false, quote, bracket, brace⟩ := mark c front
  rw [readValue, skipSpaces_cons space]
  split <;> simp_all

/-- What may stand behind an item of an array. -/
def Closes (text : List Char) : Prop := ∀ c ∈ text.head?, c = ',' ∨ c = ']'

theorem Closes.ends {text : List Char} (closes : Closes text) : Written.Ends text := by
  have ends : ∀ c ∈ [',', ']'], isDigit c = false ∧ c ≠ '.' ∧ c ≠ 'e' ∧ c ≠ 'E' :=
    List.all_iff_forall_prop.1 (by decide)
  exact fun c inside => ends c (by simpa using closes c inside)

/-- The text of the value is read as the document, whatever closes it. -/
def ReadAs (json : Json) (document : Document) : Prop :=
  ∀ (steps room : Nat) (rest : List Char), Closes rest →
    readValue (steps + 1) room (compactChars json ++ rest) = some (document, rest)

/-- A written number begins with a sign or a digit. -/
theorem number_front (w : Written) (negative : Bool) :
    ∃ c more, Written.sign negative ++ w.text = c :: more ∧ c ∈ "-0123456789".toList := by
  cases negative with
  | true => exact ⟨'-', w.text, rfl, by decide⟩
  | false =>
    obtain ⟨c, more, _, digit, shape⟩ := w.whole_digit
    obtain ⟨least, most⟩ := Calendar.isDigit_iff.1 digit
    exact ⟨c, _, shape, List.mem_cons_of_mem '-' (mem_digits least most)⟩

theorem readAs_number {n : Number} {negative : Bool} {w : Written}
    (text : n.print = Written.sign negative ++ w.text) :
    ReadAs (.number n) (((Number.ofNumeral? negative w.whole w.fraction? w.power).map
      Document.number).getD .unreadable) := by
  intro steps room rest closes
  have read := w.readNumber_text negative closes.ends
  obtain ⟨c, more, front, first⟩ := number_front w negative
  rw [compactChars, text, front, List.cons_append, readValue_number first, ← List.cons_append, ← front,
    List.append_assoc, read]
  rfl

theorem readAs_null : ReadAs .null .null := fun _ _ _ _ => rfl

theorem readAs_bool (b : Bool) : ReadAs (.bool b) (.bool b) := fun _ _ _ _ => by cases b <;> rfl

theorem readAs_string (s : String) : ReadAs (.string s) (.string s) := by
  intro steps room rest _
  have text : compactChars (.string s) ++ rest = '"' :: (s.toList.flatMap escaped ++ '"' :: rest) := by
    simp [compactChars_string]
  rw [text, readValue, skipSpaces_cons (by decide)]
  simp only [readString_quoted, Option.bind_eq_bind, Option.bind_some, Option.map_some, Option.getD_some]

/-- The text of a value without others in it is read, though a fractional number perhaps as
another one. -/
theorem exists_readAs {json : Json} (flat : json.isFlat = true) : ∃ document, ReadAs json document := by
  cases json with
  | null => exact ⟨_, readAs_null⟩
  | bool b => exact ⟨_, readAs_bool b⟩
  | number n =>
    obtain ⟨negative, w, text⟩ := exists_number n
    exact ⟨_, readAs_number text⟩
  | string s => exact ⟨_, readAs_string s⟩
  | array | object => cases flat

/-- The text of such a value begins neither with a blank nor with a bracket that closes. -/
theorem compactChars_front {json : Json} (flat : json.isFlat = true) :
    ∃ c more, compactChars json = c :: more ∧ isSpace c = false ∧ c ≠ ']' := by
  have marks : ∀ c ∈ "-0123456789".toList, isSpace c = false ∧ c ≠ ']' :=
    List.all_iff_forall_prop.1 (by decide)
  cases json with
  | null => exact ⟨'n', _, rfl, by decide⟩
  | bool b =>
    cases b
    · exact ⟨'f', _, rfl, by decide⟩
    · exact ⟨'t', _, rfl, by decide⟩
  | number n =>
    obtain ⟨negative, w, text⟩ := exists_number n
    obtain ⟨c, more, front, first⟩ := number_front w negative
    exact ⟨c, more, by rw [compactChars, text, front], marks c first⟩
  | string s => exact ⟨'"', _, compactChars_string s, by decide⟩
  | array | object => cases flat

/-! ## Arrays -/

variable {items : List Json} {document : Json → Document}

/-- The items of an array are read one by one. -/
theorem readItems_compact (reads : ∀ item ∈ items, ReadAs item (document item)) (steps : Nat)
    (enough : items.length < steps) (given : items ≠ []) (room : Nat) (rest : List Char) :
    readItems steps room (intersperse [','] (items.map compactChars) ++ ']' :: rest) =
      some (items.map document, rest) := by
  induction items generalizing steps with
  | nil => exact absurd rfl given
  | cons item others ih =>
    obtain ⟨here, further⟩ := List.forall_mem_cons.1 reads
    rw [List.length_cons] at enough
    obtain ⟨steps, rfl⟩ : ∃ n, steps = n + 2 := ⟨steps - 2, by omega⟩
    cases others with
    | nil =>
      have read := here steps room (']' :: rest) (by simp [Closes])
      have space : skipSpaces (']' :: rest) = ']' :: rest := skipSpaces_cons (by decide) rest
      simp only [List.map_cons, List.map_nil, intersperse, readItems, read, space, Option.bind_eq_bind,
        Option.bind_some]
    | cons next others =>
      have behind := ih further (steps + 1) (by omega) (by simp)
      have text : intersperse [','] ((item :: next :: others).map compactChars) ++ ']' :: rest =
          compactChars item ++ ',' :: (intersperse [','] ((next :: others).map compactChars) ++
            ']' :: rest) := by
        simp [intersperse_cons_cons]
      rw [text]
      generalize intersperse [','] ((next :: others).map compactChars) ++ ']' :: rest = more at behind
      have read := here steps room (',' :: more) (by simp [Closes])
      have space : skipSpaces (',' :: more) = ',' :: more := skipSpaces_cons (by decide) more
      rw [readItems, read]
      simp only [space, behind, Option.bind_eq_bind, Option.bind_some]
      rfl

/-- A text is read whole if its characters are. -/
theorem read?_of_readValue {json : Json} {document : Document}
    (read : readValue (2 * (compactChars json).length + 2) depthLimit (compactChars json) =
      some (document, [])) : Document.read? json.compact = some document := by
  rw [Document.read?, compact, String.toList_ofList]
  simp only [read]
  rfl

theorem parse?_of_readAs {json : Json} {document : Document} (reads : ReadAs json document) :
    parse? json.compact = document.toJson? := by
  have read := reads (2 * (compactChars json).length + 1) depthLimit [] (by simp [Closes])
  rw [List.append_nil] at read
  rw [parse?, read?_of_readValue read, Option.bind_some]

/-- Between items are commas, so the text of a list is longer than the list. -/
theorem length_le_intersperse (flat : ∀ item ∈ items, item.isFlat = true) :
    items.length ≤ (intersperse [','] (items.map compactChars)).length := by
  induction items with
  | nil => exact Nat.zero_le _
  | cons item others ih =>
    obtain ⟨here, further⟩ := List.forall_mem_cons.1 flat
    obtain ⟨c, more, front, _, _⟩ := compactChars_front here
    cases others with
    | nil => simp [intersperse, front]
    | cons next others =>
      have shorter := ih further
      rw [List.map_cons, List.map_cons, intersperse_cons_cons, ← List.map_cons]
      simp only [List.length_append, List.length_cons] at shorter ⊢
      omega

/-- An array that is not closed at once has the items that follow. -/
theorem readValue_array {c : Char} {tail rest : List Char} {steps room : Nat} {found : List Document}
    (space : isSpace c = false) (bracket : c ≠ ']')
    (read : readItems steps (room - 1) (c :: tail) = some (found, rest)) :
    readValue (steps + 1) room ('[' :: c :: tail) = some (withRoom room (.array found), rest) := by
  have opening : skipSpaces ('[' :: c :: tail) = '[' :: c :: tail := skipSpaces_cons (by decide) _
  rw [readValue, opening]
  simp only [skipSpaces_cons space]
  split
  · next same => exact absurd (List.cons.inj same).1 bracket
  · simp only [read, Option.bind_eq_bind, Option.bind_some]

/-- The text of an array without others in it is read as an array of documents. -/
theorem read?_array (flat : ∀ item ∈ items, item.isFlat = true)
    (reads : ∀ item ∈ items, ReadAs item (document item)) :
    Document.read? (Json.array items).compact = some (.array (items.map document)) := by
  apply read?_of_readValue
  by_cases given : items = []
  · rw [given]
    rfl
  have long := length_le_intersperse flat
  have read := readItems_compact reads
    (2 * (compactChars (.array items)).length + 1) (by
      rw [compactChars_array]
      simp only [List.length_append, List.length_cons]
      omega) given (depthLimit - 1) []
  obtain ⟨c, tail, shape, space, bracket⟩ : ∃ c tail, intersperse [','] (items.map compactChars) = c :: tail ∧
      isSpace c = false ∧ c ≠ ']' := by
    obtain ⟨item, others, rfl⟩ := List.exists_cons_of_ne_nil given
    obtain ⟨c, more, front, mark⟩ := compactChars_front (flat item List.mem_cons_self)
    cases others with
    | nil => exact ⟨c, more, by simpa [intersperse] using front, mark⟩
    | cons next others =>
      rw [List.map_cons, List.map_cons, intersperse_cons_cons, front]
      exact ⟨c, _, rfl, mark⟩
  rw [compactChars_array, shape] at read ⊢
  exact readValue_array space bracket read

/-- The text of an array without others in it is the text of an array of as many items,
each of which is read as its own text is. -/
theorem read?_items (flat : ∀ item ∈ items, item.isFlat = true) :
    ∃ documents, Document.read? (Json.array items).compact = some (.array documents) ∧
      documents.map Document.toJson? = items.map fun item => parse? item.compact := by
  have every : ∀ json : Json, json.isFlat = true → ∃ document, ReadAs json document :=
    fun _ flat => exists_readAs flat
  choose! document reads using every
  refine ⟨_, read?_array flat fun item member => reads item (flat item member), ?_⟩
  rw [List.map_map]
  exact List.map_congr_left fun item member => (parse?_of_readAs (reads item (flat item member))).symm

/-! ## What texts say -/

/-- The text of the value says which value it is. A fractional number is said by a numeral
that is rounded to it; every other value without others in it is what is read from its text. -/
def ReadsBack : Json → Prop
  | .number (.float x finite) => ∃ n, FloatText.read? (compactChars (.number (.float x finite))) =
      some (.numeral n) ∧ n.toDouble? = some x
  | json => parse? json.compact = some json

theorem readsBack_of_flat {json : Json} (flat : json.isFlat = true) : json.ReadsBack := by
  cases json with
  | null => exact parse?_of_readAs readAs_null
  | bool b => exact parse?_of_readAs (readAs_bool b)
  | number n =>
    cases n with
    | int n inRange =>
      have read := parse?_of_readAs (readAs_number (print_int inRange))
      have number : Number.ofNumeral? (decide (n < 0)) (Written.ofNat n.natAbs).whole
          (Written.ofNat n.natAbs).fraction? (Written.ofNat n.natAbs).power = some (.int n inRange) :=
        ofNumeral?_int inRange
      rw [number] at read
      exact read
    | float x finite =>
      rw [ReadsBack, compactChars]
      exact read?_print .json finite
  | string s => exact parse?_of_readAs (readAs_string s)
  | array | object => cases flat

end Polyquery.Json
