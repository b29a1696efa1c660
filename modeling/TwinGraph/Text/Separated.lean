/-!
# Separated texts

The part of a text before its first separator, which names what the rest refines, and lists of texts
with a comma and a space between neighbours.  A reader of a text cuts such a list at every comma
that a space follows and knows nothing of the texts that were put together there.  Cutting what was
joined gives these texts back only if none of them can be cut itself; otherwise there are more items
than texts.
-/

namespace TwinGraph
namespace Text

/-- The part of a text before the first separator, or all of it if there is none. -/
def firstPart (separator : Char) (text : String) : String :=
  String.ofList (text.toList.takeWhile (· != separator))

/-- Texts in order with a comma and a space between neighbours. -/
def commaSeparated (texts : List (List Char)) : List Char :=
  [',', ' '].intercalate texts

theorem toList_firstPart (separator : Char) (text : String) :
    (firstPart separator text).toList = text.toList.takeWhile (· != separator) := by
  simp [firstPart]

theorem separator_notMem_firstPart (separator : Char) (text : String) :
    separator ∉ (firstPart separator text).toList := by
  rw [toList_firstPart]
  intro member
  have kept := List.all_eq_true.mp List.all_takeWhile separator member
  simp at kept

@[simp]
theorem commaSeparated_nil : commaSeparated [] = [] := rfl

@[simp]
theorem commaSeparated_singleton (text : List Char) : commaSeparated [text] = text := by
  simp [commaSeparated]

theorem commaSeparated_cons_cons (first second : List Char) (rest : List (List Char)) :
    commaSeparated (first :: second :: rest) =
      first ++ ',' :: ' ' :: commaSeparated (second :: rest) := by
  simp [commaSeparated]

/-- The items of a list as it stands in a text, cut at every comma that a space follows. -/
def items : List Char → List (List Char)
  | [] => [[]]
  | ',' :: ' ' :: rest => [] :: items rest
  | character :: rest =>
    match items rest with
    | [] => [[character]]
    | item :: others => (character :: item) :: others

theorem items_ne_nil (text : List Char) : items text ≠ [] := by
  fun_cases items text <;> simp_all

/-- A character that begins no separator belongs to the first item. -/
theorem items_cons {character : Char} {rest item : List Char} {others : List (List Char)}
    (whole : ¬ [',', ' '] <+: character :: rest) (shape : items rest = item :: others) :
    items (character :: rest) = (character :: item) :: others := by
  rw [items, shape]
  rintro after rfl rfl
  exact whole ⟨after, rfl⟩

theorem items_separator (rest : List Char) : items (',' :: ' ' :: rest) = [] :: items rest := by
  rw [items]

/-- The items joined again are the text. -/
theorem commaSeparated_items (text : List Char) : commaSeparated (items text) = text := by
  fun_induction items text with
  | case1 => rfl
  | case2 rest induction =>
    obtain ⟨item, others, shape⟩ := List.exists_cons_of_ne_nil (items_ne_nil rest)
    rw [shape, commaSeparated_cons_cons, ← shape, induction]
    rfl
  | case3 character rest _ shape => exact absurd shape (items_ne_nil rest)
  | case4 character rest _ item others shape induction =>
    rw [shape] at induction
    rw [← induction]
    cases others with
    | nil => simp
    | cons second others => simp [commaSeparated_cons_cons]

/-- A separator ends what stands before it, whatever follows it. -/
theorem items_append (left right : List Char) :
    items (left ++ ',' :: ' ' :: right) = items left ++ items right := by
  fun_induction items left with
  | case1 => rw [List.nil_append, items_separator]; rfl
  | case2 rest induction =>
    rw [List.cons_append, List.cons_append, items_separator, induction, List.cons_append]
  | case3 character rest _ shape => exact absurd shape (items_ne_nil rest)
  | case4 character rest whole item others shape induction =>
    rw [shape, List.cons_append] at induction
    -- The end of `rest` is a comma at most, so no separator begins before the one that is given.
    have whole' : ¬ [',', ' '] <+: character :: (rest ++ ',' :: ' ' :: right) := by
      rintro ⟨after, equal⟩
      cases rest with
      | nil => simp at equal
      | cons second rest =>
        simp only [List.cons_append, List.nil_append, List.cons.injEq] at equal
        exact whole rest equal.1.symm (by rw [equal.2.1])
    rw [List.cons_append, items_cons whole' induction, List.cons_append]

/-- Cutting what was joined cuts each text by itself. -/
theorem items_commaSeparated {texts : List (List Char)} (nonempty : texts ≠ []) :
    items (commaSeparated texts) = texts.flatMap items := by
  induction texts with
  | nil => exact absurd rfl nonempty
  | cons text texts induction =>
    cases texts with
    | nil => simp
    | cons second texts =>
      rw [commaSeparated_cons_cons, items_append, induction (List.cons_ne_nil _ _)]
      exact List.flatMap_cons.symm

/-- A text without a separator is a single item. -/
theorem items_of_whole {text : List Char} (whole : ¬ [',', ' '] <:+: text) :
    items text = [text] := by
  induction text with
  | nil => rfl
  | cons character rest induction =>
    have wholeRest : ¬ [',', ' '] <:+: rest := fun inside => whole (List.infix_cons inside)
    exact items_cons (fun front => whole front.isInfix) (induction wholeRest)

/-- A word without a comma stays at the front of the first item. -/
theorem items_word_append {word rest item : List Char} {others : List (List Char)}
    (commaless : ',' ∉ word) (shape : items rest = item :: others) :
    items (word ++ rest) = (word ++ item) :: others := by
  induction word with
  | nil => exact shape
  | cons character word induction =>
    rw [List.mem_cons, not_or] at commaless
    have whole : ¬ [',', ' '] <+: character :: (word ++ rest) := by
      rintro ⟨after, equal⟩
      exact commaless.1 (List.cons.inj equal).1
    exact items_cons whole (induction commaless.2)

end Text
end TwinGraph
