/-! Cutting text at a separator. Names and selectors are cut at dots, wire keys
at colons. The functions work on lists of characters, where every law is an
induction; the `String` versions only change the carrier. -/
namespace Polyquery.Text

/-- The pieces between separators. There is always one more piece than there
are separators, so the empty text is one empty piece. -/
def segments (separator : Char) : List Char → List (List Char)
  | [] => [[]]
  | c :: rest =>
    if c = separator then [] :: segments separator rest
    else match segments separator rest with
      | [] => [[c]]
      | first :: others => (c :: first) :: others

/-- What stands before the first separator and what stands after it, or
nothing for a text without the separator. -/
def cutFirst (separator : Char) : List Char → Option (List Char × List Char)
  | [] => none
  | c :: rest =>
    if c = separator then some ([], rest)
    else (cutFirst separator rest).map fun (before, after) => (c :: before, after)

/-- What stands before the last separator and what stands after it. -/
def cutLast (separator : Char) : List Char → Option (List Char × List Char)
  | [] => none
  | c :: rest =>
    match cutLast separator rest with
    | some (before, after) => some (c :: before, after)
    | none => if c = separator then some ([], rest) else none

/-- Whether one text stands somewhere inside another. -/
def occursIn (needle : List Char) : List Char → Bool
  | [] => needle.isEmpty
  | c :: rest => needle.isPrefixOf (c :: rest) || occursIn needle rest

/-- Put one text between every two neighbours. -/
def intersperse {α : Type} (separator : List α) : List (List α) → List α
  | [] => []
  | [only] => only
  | first :: others => first ++ separator ++ intersperse separator others

theorem segments_ne_nil (separator : Char) (text : List Char) : segments separator text ≠ [] := by
  cases text with
  | nil => simp [segments]
  | cons c rest =>
    simp only [segments]
    split
    · simp
    · split <;> simp

/-- Nothing is lost by cutting: the pieces with separators between them are
the text again. -/
theorem intersperse_segments (separator : Char) (text : List Char) :
    intersperse [separator] (segments separator text) = text := by
  induction text with
  | nil => rfl
  | cons c rest ih =>
    simp only [segments]
    cases cut : segments separator rest with
    | nil => exact absurd cut (segments_ne_nil separator rest)
    | cons first others =>
      rw [cut] at ih
      split
      · next same =>
        subst same
        simp [intersperse, ih]
      · cases others with
        | nil => simpa [intersperse] using ih
        | cons second more => simpa [intersperse] using ih

theorem segments_append (separator : Char) (before after : List Char) :
    segments separator (before ++ separator :: after) =
      segments separator before ++ segments separator after := by
  induction before with
  | nil => simp [segments]
  | cons c rest ih =>
    simp only [List.cons_append, segments, ih]
    split
    · rfl
    · cases cut : segments separator rest with
      | nil => exact absurd cut (segments_ne_nil separator rest)
      | cons first others => rfl

theorem cutFirst_eq_some {separator : Char} {text before after : List Char}
    (cut : cutFirst separator text = some (before, after)) :
    text = before ++ separator :: after ∧ separator ∉ before := by
  induction text generalizing before with
  | nil => simp [cutFirst] at cut
  | cons c rest ih =>
    simp only [cutFirst] at cut
    split at cut
    · next same =>
      cases cut
      simp [same]
    · next other =>
      obtain ⟨⟨head, tail⟩, inner, shape⟩ := Option.map_eq_some_iff.1 cut
      cases shape
      obtain ⟨whole, fresh⟩ := ih inner
      exact ⟨by simp [whole], by simp [fresh, Ne.symm other]⟩

theorem cutFirst_append {separator : Char} {before : List Char} (fresh : separator ∉ before)
    (after : List Char) : cutFirst separator (before ++ separator :: after) = some (before, after) := by
  induction before with
  | nil => simp [cutFirst]
  | cons c rest ih =>
    obtain ⟨other, further⟩ := not_or.1 fun member => fresh (List.mem_cons.2 member)
    simp [cutFirst, Ne.symm other, ih further]

theorem cutLast_eq_none {separator : Char} {text : List Char} :
    cutLast separator text = none ↔ separator ∉ text := by
  induction text with
  | nil => simp [cutLast]
  | cons c rest ih =>
    simp only [cutLast]
    cases cut : cutLast separator rest with
    | some parts =>
      have inside : separator ∈ rest := by simpa [cut] using ih
      simp [inside]
    | none =>
      have fresh : separator ∉ rest := ih.1 cut
      by_cases same : c = separator
      · simp [same]
      · simp [same, Ne.symm same, fresh]

/-- Behind the last separator there is none. -/
theorem cutLast_append {separator : Char} (before : List Char) {after : List Char}
    (fresh : separator ∉ after) :
    cutLast separator (before ++ separator :: after) = some (before, after) := by
  induction before with
  | nil => simp [cutLast, cutLast_eq_none.2 fresh]
  | cons c rest ih => simp [cutLast, ih]

theorem cutLast_eq_some {separator : Char} {text before after : List Char}
    (cut : cutLast separator text = some (before, after)) :
    text = before ++ separator :: after ∧ separator ∉ after := by
  induction text generalizing before with
  | nil => cases cut
  | cons c rest ih =>
    simp only [cutLast] at cut
    cases inner : cutLast separator rest with
    | some parts =>
      rw [inner] at cut
      cases cut
      obtain ⟨whole, fresh⟩ := ih inner
      exact ⟨by rw [whole, List.cons_append], fresh⟩
    | none =>
      rw [inner] at cut
      by_cases same : c = separator
      · rw [if_pos same] at cut
        cases cut
        exact ⟨by rw [same, List.nil_append], cutLast_eq_none.1 inner⟩
      · rw [if_neg same] at cut
        cases cut

/-- A run is taken as a whole, and nothing of what stands behind it. -/
theorem takeWhile_run {p : Char → Bool} {run behind : List Char} (inside : ∀ c ∈ run, p c = true)
    (ends : ∀ c ∈ behind.head?, p c = false) :
    (run ++ behind).takeWhile p = run ∧ (run ++ behind).dropWhile p = behind := by
  rw [List.takeWhile_append_of_pos inside, List.dropWhile_append_of_pos inside]
  cases behind with
  | nil => simp
  | cons c rest => simp [ends c rfl]

end Polyquery.Text
