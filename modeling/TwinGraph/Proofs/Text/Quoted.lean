import Mathlib.Logic.Function.Basic
import TwinGraph.Proofs.Text.Reading

/-!
# Values inside quotes

Escaping writes the texts that are made of pairs, each a backslash and a special character after
it, and of characters that are not special.  Each of them is written for one value, and the parts of
a value may be escaped one by one.  So a quoted value ends where its quote closes, and a list of
values is read as no other list, whatever stands in the values.
-/

namespace TwinGraph
namespace Text

/-- Texts in which, read from left to right, every backslash begins a pair that ends in a backslash
or a quote, and every quote ends such a pair. -/
inductive Escaped : List Char → Prop where
  | nil : Escaped []
  | pair {second : Char} {rest : List Char} (special : second = '\\' ∨ second = '\'')
      (others : Escaped rest) : Escaped ('\\' :: second :: rest)
  | single {character : Char} {rest : List Char} (notBackslash : character ≠ '\\')
      (notQuote : character ≠ '\'') (others : Escaped rest) : Escaped (character :: rest)

theorem escaped_escape (value : List Char) : Escaped (escape value) := by
  induction value with
  | nil => exact .nil
  | cons character rest induction =>
    rw [escape_cons]
    cases special : isSpecial character with
    | true =>
      rw [escapeCharacter_of_special special]
      exact .pair (isSpecial_iff.mp special) induction
    | false =>
      rw [escapeCharacter_of_ordinary special]
      obtain ⟨notBackslash, notQuote⟩ := isSpecial_eq_false_iff.mp special
      exact .single notBackslash notQuote induction

theorem escape_unescape {text : List Char} (escaped : Escaped text) :
    escape (unescape text) = text := by
  induction escaped with
  | nil => rfl
  | pair special _ induction =>
    rw [unescape_pair, escape_cons, induction,
      escapeCharacter_of_special (isSpecial_iff.mpr special)]
    rfl
  | single notBackslash notQuote _ induction =>
    rw [unescape_cons notBackslash, escape_cons, induction,
      escapeCharacter_of_ordinary (isSpecial_eq_false_iff.mpr ⟨notBackslash, notQuote⟩)]
    rfl

theorem exists_escape_eq_iff {text : List Char} :
    (∃ value, escape value = text) ↔ Escaped text := by
  constructor
  · rintro ⟨value, rfl⟩
    exact escaped_escape value
  · intro escaped
    exact ⟨unescape text, escape_unescape escaped⟩

/-- Unescaping gives back every value that was escaped, and escaping may be done part by part, be
there something special in a part or not.  A text is written by escaping exactly if its backslashes
and quotes stand in pairs, and escaping gives each such text back when it was unescaped. -/
theorem escape_is_exact :
    (∀ value : List Char, unescape (escape value) = value) ∧
    (∀ left right : List Char, escape (left ++ right) = escape left ++ escape right) ∧
    (∀ text : List Char, (∃ value, escape value = text) ↔ Escaped text) ∧
    ∀ text : List Char, Escaped text → escape (unescape text) = text :=
  ⟨unescape_escape, escape_append, fun _ => exists_escape_eq_iff, fun _ => escape_unescape⟩

/-- A quote behind three backslashes ends a pair, a quote behind two does not.  A part with nothing
special stays as it is beside a part that is escaped. -/
theorem escape_is_exact_of_backslash_runs :
    (Escaped ['\\', '\\', '\\', '\''] ∧
      escape (unescape ['\\', '\\', '\\', '\'']) = ['\\', '\\', '\\', '\'']) ∧
    (¬ ∃ value, escape value = ['\\', '\\', '\'']) ∧
    escape "it's".toList = "it".toList ++ escape "'s".toList ∧
    unescape (escape "\\'\\".toList) = "\\'\\".toList := by
  obtain ⟨reads, parts, image, gives⟩ := escape_is_exact
  have oddRun : Escaped ['\\', '\\', '\\', '\''] := .pair (.inl rfl) (.pair (.inr rfl) .nil)
  have evenRun : ¬ Escaped ['\\', '\\', '\''] := by
    intro escaped
    cases escaped with
    | pair _ others =>
      cases others with
      | single _ notQuote _ => exact notQuote rfl
    | single notBackslash _ _ => exact notBackslash rfl
  exact ⟨⟨oddRun, gives _ oddRun⟩, (image _).not.mpr evenRun, parts "it".toList "'s".toList,
    reads _⟩

theorem quoteList_injective : Function.Injective quoteList := by
  intro left right equal
  have closed : quoteList left ++ [']'] = quoteList right ++ [']'] := by rw [equal]
  exact (quoteList_append_inj closed).1

/-- A quoted value, and a list of them before its closing bracket, can be told from all that
follows.  So lists of different values have different texts, and the literals in the text of a list
are its values. -/
theorem quoted_values_delimit_themselves :
    (∀ (left right : String) (leftRest rightRest : List Char),
      quote left ++ leftRest = quote right ++ rightRest ↔ left = right ∧ leftRest = rightRest) ∧
    (∀ (left right : List String) (leftRest rightRest : List Char),
      quoteList left ++ ']' :: leftRest = quoteList right ++ ']' :: rightRest ↔
        left = right ∧ leftRest = rightRest) ∧
    Function.Injective quoteList ∧
    ∀ values : List String, literals (quoteList values) = some (values.map String.toList) := by
  refine ⟨?_, ?_, quoteList_injective, fun values => (reads_quoteList values).literals_eq⟩
  · intro left right leftRest rightRest
    constructor
    · exact quote_append_inj
    · rintro ⟨rfl, rfl⟩
      rfl
  · intro left right leftRest rightRest
    constructor
    · exact quoteList_append_inj
    · rintro ⟨rfl, rfl⟩
      rfl

/-- A value that ends in a backslash, a value that holds the text between two others, one that holds
a bracket, and no value beside an empty one. -/
theorem quoted_values_delimit_themselves_of_lookalikes :
    quote "a\\" ++ "', 'b'".toList ≠ quote "a\\', " ++ "b'".toList ∧
    quoteList ["a', 'b"] ++ ']' :: [] ≠ quoteList ["a", "b"] ++ ']' :: [] ∧
    quoteList ["a']", "b"] ++ ']' :: [] ≠ quoteList ["a"] ++ ']' :: ", 'b']".toList ∧
    quoteList [] ≠ quoteList [""] ∧
    literals (quoteList ["a', 'b\\"]) = some ["a', 'b\\".toList] := by
  obtain ⟨values, lists, injective, reads⟩ := quoted_values_delimit_themselves
  exact ⟨(values _ _ _ _).not.mpr (by decide), (lists _ _ _ _).not.mpr (by decide),
    (lists _ _ _ _).not.mpr (by decide), injective.ne (by decide), reads _⟩

end Text
end TwinGraph
