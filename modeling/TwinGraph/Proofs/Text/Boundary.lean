import TwinGraph.Text.Quoted

/-!
# Where a part of a text ends

Parts of a text are written one after the other without their lengths.  A part made of one class
of characters ends where that class ends, and a quoted part where its quote closes; in both cases
the part and all that follows it can be told from the whole.
-/

namespace TwinGraph
namespace Text

/-- A text that begins with no character of a class, be it that it is empty. -/
def Stops (keep : Char → Bool) (rest : List Char) : Prop :=
  ∀ character ∈ rest.head?, keep character = false

section

variable {keep : Char → Bool}

@[simp]
theorem stops_nil : Stops keep [] := by
  simp [Stops]

@[simp]
theorem stops_cons {character : Char} {rest : List Char} :
    Stops keep (character :: rest) ↔ keep character = false := by
  simp [Stops]

theorem takeWhile_append_of_stops {word rest : List Char}
    (kept : ∀ character ∈ word, keep character = true) (stops : Stops keep rest) :
    (word ++ rest).takeWhile keep = word := by
  rw [List.takeWhile_append_of_pos kept]
  cases rest with
  | nil => simp
  | cons character rest => simp [stops_cons.mp stops]

theorem dropWhile_append_of_stops {word rest : List Char}
    (kept : ∀ character ∈ word, keep character = true) (stops : Stops keep rest) :
    (word ++ rest).dropWhile keep = rest := by
  rw [List.dropWhile_append_of_pos kept]
  cases rest with
  | nil => rfl
  | cons character rest => simp [stops_cons.mp stops]

/-- A word of one class of characters ends where the class ends. -/
theorem append_inj_of_stops {left right leftRest rightRest : List Char}
    (leftKept : ∀ character ∈ left, keep character = true)
    (rightKept : ∀ character ∈ right, keep character = true)
    (leftStops : Stops keep leftRest) (rightStops : Stops keep rightRest)
    (equal : left ++ leftRest = right ++ rightRest) : left = right ∧ leftRest = rightRest := by
  have words := congrArg (List.takeWhile keep) equal
  have rests := congrArg (List.dropWhile keep) equal
  rw [takeWhile_append_of_stops leftKept leftStops,
    takeWhile_append_of_stops rightKept rightStops] at words
  rw [dropWhile_append_of_stops leftKept leftStops,
    dropWhile_append_of_stops rightKept rightStops] at rests
  exact ⟨words, rests⟩

end

theorem bne_of_notMem {separator : Char} {word : List Char} (whole : separator ∉ word) :
    ∀ character ∈ word, (character != separator) = true := by
  intro character member
  have differs : character ≠ separator := ne_of_mem_of_not_mem member whole
  simpa using differs

/-- A word that holds no separator ends at the separator. -/
theorem append_cons_inj {separator : Char} {left right leftRest rightRest : List Char}
    (leftWhole : separator ∉ left) (rightWhole : separator ∉ right)
    (equal : left ++ separator :: leftRest = right ++ separator :: rightRest) :
    left = right ∧ leftRest = rightRest := by
  obtain ⟨words, rests⟩ := append_inj_of_stops (bne_of_notMem leftWhole)
    (bne_of_notMem rightWhole) (by simp) (by simp) equal
  exact ⟨words, List.tail_eq_of_cons_eq rests⟩

theorem escapeCharacter_append_inj {left right : Char} {leftRest rightRest : List Char}
    (equal : escapeCharacter left ++ leftRest = escapeCharacter right ++ rightRest) :
    left = right ∧ leftRest = rightRest := by
  cases leftSpecial : isSpecial left with
  | true =>
    rw [escapeCharacter_of_special leftSpecial] at equal
    cases rightSpecial : isSpecial right with
    | true =>
      rw [escapeCharacter_of_special rightSpecial] at equal
      simpa using equal
    | false =>
      -- A pair begins with a backslash, and no ordinary character is one.
      rw [escapeCharacter_of_ordinary rightSpecial] at equal
      exact absurd (List.head_eq_of_cons_eq equal).symm (isSpecial_eq_false_iff.mp rightSpecial).1
  | false =>
    rw [escapeCharacter_of_ordinary leftSpecial] at equal
    cases rightSpecial : isSpecial right with
    | true =>
      rw [escapeCharacter_of_special rightSpecial] at equal
      exact absurd (List.head_eq_of_cons_eq equal) (isSpecial_eq_false_iff.mp leftSpecial).1
    | false =>
      rw [escapeCharacter_of_ordinary rightSpecial] at equal
      simpa using equal

theorem escapeCharacter_append_ne {character : Char} {rest after : List Char} :
    escapeCharacter character ++ rest ≠ '\'' :: after := by
  cases special : isSpecial character with
  | true => simp [escapeCharacter_of_special special]
  | false => simp [escapeCharacter_of_ordinary special, isSpecial_eq_false_iff.mp special]

theorem escape_append_inj {left right leftRest rightRest : List Char}
    (equal : escape left ++ '\'' :: leftRest = escape right ++ '\'' :: rightRest) :
    left = right ∧ leftRest = rightRest := by
  induction left generalizing right with
  | nil =>
    cases right with
    | nil => simpa using equal
    | cons character right =>
      rw [escape_cons, List.append_assoc] at equal
      exact absurd equal.symm escapeCharacter_append_ne
  | cons character left induction =>
    cases right with
    | nil =>
      rw [escape_cons, List.append_assoc] at equal
      exact absurd equal escapeCharacter_append_ne
    | cons other right =>
      rw [escape_cons, escape_cons, List.append_assoc, List.append_assoc] at equal
      obtain ⟨same, others⟩ := escapeCharacter_append_inj equal
      obtain ⟨lefts, rests⟩ := induction others
      exact ⟨by rw [same, lefts], rests⟩

theorem quote_append_inj {left right : String} {leftRest rightRest : List Char}
    (equal : quote left ++ leftRest = quote right ++ rightRest) :
    left = right ∧ leftRest = rightRest := by
  have inside : escape left.toList ++ '\'' :: leftRest =
      escape right.toList ++ '\'' :: rightRest := by
    simpa [quote] using equal
  obtain ⟨contents, rests⟩ := escape_append_inj inside
  exact ⟨String.toList_inj.mp contents, rests⟩

/-- Texts that are joined by a separator are the first one, and then each with a separator before
it. -/
theorem intercalate_cons {α : Type} (separator first : List α) (rest : List (List α)) :
    separator.intercalate (first :: rest) = first ++ rest.flatMap (separator ++ ·) := by
  induction rest generalizing first with
  | nil => simp
  | cons second rest induction => rw [List.intercalate_cons_cons, induction second]; simp

@[simp]
theorem quoteList_nil : quoteList [] = [] := rfl

theorem quoteList_cons (first : String) (rest : List String) :
    quoteList (first :: rest) = quote first ++ rest.flatMap (',' :: ' ' :: quote ·) := by
  simp only [quoteList, commaSeparated, List.map_cons, intercalate_cons, List.flatMap_map]
  rfl

theorem flatMap_quote_append_inj {left right : List String} {leftRest rightRest : List Char}
    (equal : left.flatMap (',' :: ' ' :: quote ·) ++ ']' :: leftRest =
      right.flatMap (',' :: ' ' :: quote ·) ++ ']' :: rightRest) :
    left = right ∧ leftRest = rightRest := by
  induction left generalizing right with
  | nil =>
    cases right with
    | nil => simpa using equal
    | cons value right => simp at equal
  | cons value left induction =>
    cases right with
    | nil => simp at equal
    | cons other right =>
      simp only [List.flatMap_cons, List.cons_append, List.append_assoc, List.cons.injEq,
        true_and] at equal
      obtain ⟨rfl, others⟩ := quote_append_inj equal
      obtain ⟨rfl, rests⟩ := induction others
      exact ⟨rfl, rests⟩

theorem quoteList_append_inj {left right : List String} {leftRest rightRest : List Char}
    (equal : quoteList left ++ ']' :: leftRest = quoteList right ++ ']' :: rightRest) :
    left = right ∧ leftRest = rightRest := by
  cases left with
  | nil =>
    cases right with
    | nil => simpa using equal
    | cons value right => simp [quoteList_cons, quote] at equal
  | cons value left =>
    cases right with
    | nil => simp [quoteList_cons, quote] at equal
    | cons other right =>
      rw [quoteList_cons, quoteList_cons, List.append_assoc, List.append_assoc] at equal
      obtain ⟨rfl, others⟩ := quote_append_inj equal
      obtain ⟨rfl, rests⟩ := flatMap_quote_append_inj others
      exact ⟨rfl, rests⟩

end Text
end TwinGraph
