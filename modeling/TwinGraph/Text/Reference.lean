import TwinGraph.Text.Scan
import TwinGraph.Text.Character

/-!
# Names that a text refers to

What stands outside the literals of a text is read token by token.  A word is a run of letters,
digits and underscores that is as long as it can be.  A word that does not begin with a digit refers
to something if a point follows it at once, or if it is the first of two arguments of a model test.
-/

namespace TwinGraph
namespace Text

/-- What a reading by words comes upon. -/
inductive Token where
  /-- A whole word. -/
  | word (characters : List Char)
  /-- A character outside every literal that is no part of a word. -/
  | sign (character : Char)
  /-- A whole literal, by what it holds. -/
  | literal (contents : List Char)
  deriving DecidableEq

/-- Tokens after a part of a word, which belongs to the word that they begin with, if they begin
with one. -/
def afterPart (character : Char) : List Token → List Token
  | .word more :: others => .word (character :: more) :: others
  | others => .word [character] :: others

/-- The tokens that pieces of a text make up. -/
def tokens : List Piece → List Token
  | [] => []
  | .literal contents :: rest => .literal contents :: tokens rest
  | .bare character :: rest =>
    if isWordPart character then afterPart character (tokens rest)
    else .sign character :: tokens rest

/-- The arguments of a call, if tokens go on with some: they stand in parentheses with commas
between them. -/
def arguments : List Token → List (List Token)
  | .sign '(' :: rest => (rest.takeWhile (· != .sign ')')).splitOn (.sign ',')
  | _ => []

/-- The name of what is called to test a model. -/
def modelTestName : List Char := "IS_OF_MODEL".toList

/-- The name that is the first of two arguments, if there are two and the first is a name. -/
def firstOfTwo? (rest : List Token) : Option String :=
  match arguments rest with
  | [[.word name], _] => if isWord (String.ofList name) then some (String.ofList name) else none
  | _ => none

/-- The name that is referred to at a word, given the tokens after it: the word itself before a
point, and a name among the arguments of a model test. -/
def reference? (word : List Char) (rest : List Token) : Option String :=
  if rest.head? = some (.sign '.') then
    if isWord (String.ofList word) then some (String.ofList word) else none
  else if word = modelTestName then firstOfTwo? rest
  else none

/-- The names that tokens refer to, in order. -/
def references : List Token → List String
  | [] => []
  | .word word :: rest => (reference? word rest).toList ++ references rest
  | _ :: rest => references rest

/-- The names that a text refers to outside its literals, in order and as often as it does. -/
def referred (text : List Char) : Option (List String) :=
  (pieces text).map fun found => references (tokens found)

end Text
end TwinGraph
