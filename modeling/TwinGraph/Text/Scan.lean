import TwinGraph.Text.Quoted

/-!
# Reading literals in a text

A text is read from left to right.  Outside a literal a quote opens one and every other character
stands for itself; inside, a backslash takes the next character as it is, and a quote that no
backslash took closes the literal.  A quoted value is read as one literal that holds the value,
whatever follows it.
-/

namespace TwinGraph
namespace Text

/-- What a reading comes upon. -/
inductive Piece where
  /-- A character outside every literal. -/
  | bare (character : Char)
  /-- A whole literal, by what it holds. -/
  | literal (contents : List Char)
  deriving DecidableEq

namespace Piece

/-- The contents of a literal. -/
def contents? : Piece → Option (List Char)
  | bare _ => none
  | literal contents => some contents

/-- A character outside every literal. -/
def bare? : Piece → Option Char
  | bare character => some character
  | literal _ => none

end Piece

/-- The pieces of a text, of which the literal that is open holds some characters already.  A text
that ends inside a literal has no pieces. -/
def scan : Option (List Char) → List Char → Option (List Piece)
  | none, [] => some []
  | none, '\'' :: rest => scan (some []) rest
  | none, character :: rest => (scan none rest).map (.bare character :: ·)
  | some _, [] => none
  | some _, ['\\'] => none
  | some contents, '\\' :: character :: rest => scan (some (contents ++ [character])) rest
  | some contents, '\'' :: rest => (scan none rest).map (.literal contents :: ·)
  | some contents, character :: rest => scan (some (contents ++ [character])) rest

/-- The pieces of a whole text. -/
def pieces (text : List Char) : Option (List Piece) :=
  scan none text

/-- The literals of a text in order. -/
def literals (text : List Char) : Option (List (List Char)) :=
  (pieces text).map (·.filterMap Piece.contents?)

/-- What stands outside the literals of a text. -/
def outside (text : List Char) : Option (List Char) :=
  (pieces text).map (·.filterMap Piece.bare?)

theorem scan_bare {character : Char} (ordinary : character ≠ '\'') (rest : List Char) :
    scan none (character :: rest) = (scan none rest).map (.bare character :: ·) := by
  rw [scan]
  simpa using ordinary

theorem scan_escape (contents value rest : List Char) :
    scan (some contents) (escape value ++ rest) = scan (some (contents ++ value)) rest := by
  induction value generalizing contents with
  | nil => simp
  | cons character value ih =>
    rw [escape_cons]
    cases special : isSpecial character with
    | true => simp [escapeCharacter_of_special special, scan, ih]
    | false =>
      obtain ⟨notBackslash, notQuote⟩ := isSpecial_eq_false_iff.mp special
      have step : scan (some contents) (character :: (escape value ++ rest)) =
          scan (some (contents ++ [character])) (escape value ++ rest) := by
        rw [scan]
        · simp [notBackslash]
        · simp [notBackslash]
        · simpa using notQuote
      simpa [escapeCharacter_of_ordinary special, ih] using step

theorem scan_quote (value : String) (rest : List Char) :
    scan none (quote value ++ rest) = (scan none rest).map (.literal value.toList :: ·) := by
  simp [quote, scan, List.append_assoc, scan_escape]

end Text
end TwinGraph
