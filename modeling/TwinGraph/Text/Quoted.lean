import TwinGraph.Text.Separated

/-!
# Quoted texts

String values stand between single quotes.  Inside them a backslash goes before every quote and
every backslash, so a quoted text ends at the first quote that no backslash takes.  Reading back
what was escaped gives the value again.
-/

namespace TwinGraph
namespace Text

/-- The two characters that have a meaning of their own inside quotes. -/
def isSpecial (character : Char) : Bool :=
  character == '\\' || character == '\''

/-- One character as it stands inside quotes. -/
def escapeCharacter (character : Char) : List Char :=
  if isSpecial character then ['\\', character] else [character]

/-- A value as it stands inside quotes.  A value that holds no special character stands there as it
is. -/
def escape (value : List Char) : List Char :=
  if value.any isSpecial then value.flatMap escapeCharacter else value

/-- Drop each backslash and keep the character after it, whatever it is. -/
def unescape : List Char → List Char
  | [] => []
  | ['\\'] => []
  | '\\' :: character :: rest => character :: unescape rest
  | character :: rest => character :: unescape rest

/-- A value in single quotes. -/
def quote (value : String) : List Char :=
  '\'' :: (escape value.toList ++ ['\''])

/-- Values in single quotes with a comma and a space between neighbours. -/
def quoteList (values : List String) : List Char :=
  commaSeparated (values.map quote)

theorem isSpecial_iff {character : Char} :
    isSpecial character = true ↔ character = '\\' ∨ character = '\'' := by
  rw [isSpecial, Bool.or_eq_true, beq_iff_eq, beq_iff_eq]

theorem isSpecial_eq_false_iff {character : Char} :
    isSpecial character = false ↔ character ≠ '\\' ∧ character ≠ '\'' := by
  rw [← Bool.not_eq_true, isSpecial_iff, not_or]

theorem escapeCharacter_of_special {character : Char} (special : isSpecial character = true) :
    escapeCharacter character = ['\\', character] :=
  if_pos special

theorem escapeCharacter_of_ordinary {character : Char} (ordinary : isSpecial character = false) :
    escapeCharacter character = [character] := by
  rw [escapeCharacter, ordinary]
  rfl

theorem flatMap_escapeCharacter_of_ordinary {value : List Char}
    (ordinary : ∀ character ∈ value, isSpecial character = false) :
    value.flatMap escapeCharacter = value := by
  induction value with
  | nil => rfl
  | cons character rest ih =>
    rw [List.forall_mem_cons] at ordinary
    rw [List.flatMap_cons, escapeCharacter_of_ordinary ordinary.1, ih ordinary.2,
      List.singleton_append]

/-- Leaving a value as it is agrees with going through it character by character. -/
theorem escape_eq_flatMap (value : List Char) : escape value = value.flatMap escapeCharacter := by
  unfold escape
  split
  · rfl
  · next plain =>
    rw [List.any_eq_true, not_exists] at plain
    have ordinary : ∀ character ∈ value, isSpecial character = false := by
      intro character member
      exact Bool.eq_false_iff.mpr fun special => plain character ⟨member, special⟩
    exact (flatMap_escapeCharacter_of_ordinary ordinary).symm

@[simp]
theorem escape_nil : escape [] = [] := rfl

theorem escape_cons (character : Char) (rest : List Char) :
    escape (character :: rest) = escapeCharacter character ++ escape rest := by
  rw [escape_eq_flatMap, escape_eq_flatMap, List.flatMap_cons]

theorem escape_append (left right : List Char) :
    escape (left ++ right) = escape left ++ escape right := by
  rw [escape_eq_flatMap, escape_eq_flatMap, escape_eq_flatMap, List.flatMap_append]

theorem unescape_cons {character : Char} (ordinary : character ≠ '\\') (rest : List Char) :
    unescape (character :: rest) = character :: unescape rest := by
  rw [unescape]
  · simp_all
  · simp_all

theorem unescape_pair (character : Char) (rest : List Char) :
    unescape ('\\' :: character :: rest) = character :: unescape rest := by
  rw [unescape]

theorem unescape_escape (value : List Char) : unescape (escape value) = value := by
  induction value with
  | nil => rfl
  | cons character rest ih =>
    rw [escape_cons]
    cases special : isSpecial character with
    | true =>
      rw [escapeCharacter_of_special special, List.cons_append, List.cons_append, List.nil_append,
        unescape_pair, ih]
    | false =>
      have notBackslash : character ≠ '\\' := (isSpecial_eq_false_iff.mp special).1
      rw [escapeCharacter_of_ordinary special, List.cons_append, List.nil_append,
        unescape_cons notBackslash, ih]

end Text
end TwinGraph
