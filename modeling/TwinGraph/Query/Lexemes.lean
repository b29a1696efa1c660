import TwinGraph.Query

/-!
# The lexemes of a query text

A query text as a row of lexemes, each of which tells what it stands for.  Texts alone do not: an
alias and a word of the language are both written bare.
-/

namespace TwinGraph

/-- A part of a query text that has no parts of its own. -/
inductive Lexeme where
  /-- A word of the query language. -/
  | word (spelling : String)
  /-- An alias. -/
  | aliasName (spelling : String)
  /-- What is named of the models: a property, a relationship or the rest of an entry. -/
  | name (text : List Char)
  /-- A number. -/
  | numeral (text : List Char)
  /-- A value in quotes. -/
  | quoted (value : String)
  /-- Spaces, punctuation and operators. -/
  | sign (text : List Char)
  deriving DecidableEq

namespace Lexeme

/-- A lexeme as it stands in a query text. -/
def render : Lexeme → List Char
  | word spelling | aliasName spelling => spelling.toList
  | name text | numeral text | sign text => text
  | quoted value => Text.quote value

@[simp]
theorem render_word (spelling : String) : (word spelling).render = spelling.toList := rfl

@[simp]
theorem render_aliasName (spelling : String) : (aliasName spelling).render = spelling.toList := rfl

@[simp]
theorem render_name (text : List Char) : (name text).render = text := rfl

@[simp]
theorem render_numeral (text : List Char) : (numeral text).render = text := rfl

@[simp]
theorem render_quoted (value : String) : (quoted value).render = Text.quote value := rfl

@[simp]
theorem render_sign (text : List Char) : (sign text).render = text := rfl

/-- What goes between lexemes that a space parts. -/
def space : Lexeme := sign [' ']

@[simp]
theorem render_space : space.render = [' '] := rfl

/-- Rows of lexemes with a comma and a space between neighbours. -/
def commaSeparated (rows : List (List Lexeme)) : List Lexeme :=
  [sign [',', ' ']].intercalate rows

/-- A call: its word, and its arguments in parentheses. -/
def call (called : String) (arguments : List (List Lexeme)) : List Lexeme :=
  word called :: sign ['('] :: (commaSeparated arguments ++ [sign [')']])

end Lexeme

open Lexeme

/-- The lexeme of a literal. -/
def Literal.lexeme : Literal → Lexeme
  | string value => .quoted value
  | integer value => .numeral (integer value).render
  | float value => .numeral (float value).render
  | boolean true => .word "true"
  | boolean false => .word "false"
  | null => .word "null"

namespace Condition

/-- The lexemes of a property after its qualifier. -/
def targetLexemes (qualifier column : String) : List Lexeme :=
  if qualifier = "" then [.name column.toList]
  else [.aliasName qualifier, .sign ['.'], .name column.toList]

/-- The lexemes of what a function takes after the property. -/
def argumentLexemes (argument : Option String) : Arity → List (List Lexeme)
  | .unary => []
  | .binary => [[.quoted (argument.getD "")]]

mutual

/-- The lexemes of a condition. -/
def lexemes : Condition → List Lexeme
  | comparison qualifier column operator value =>
    targetLexemes qualifier column ++
      [space, .sign operator.token.toList, space, value.lexeme]
  | membership qualifier column kind values =>
    targetLexemes qualifier column ++ space :: .word kind.token :: .sign [' ', '['] ::
      (commaSeparated (values.map fun value => [.quoted value]) ++ [.sign [']']])
  | modelTest qualifier identifier =>
    call "IS_OF_MODEL"
      (qualifier.toList.map (fun name => [.aliasName name]) ++
        [[.quoted (versionedModel identifier)]])
  | scalarTest qualifier column function argument =>
    call function.token
      (targetLexemes qualifier column :: argumentLexemes argument function.arity)
  | negation inner => .word "NOT" :: space :: lexemes inner
  | group connective children =>
    .sign ['('] ::
      ([space, .word connective.token, space].intercalate (lexemesOfEach children) ++
        [.sign [')']])

/-- The lexemes of conditions, each on its own. -/
def lexemesOfEach : List Condition → List (List Lexeme)
  | [] => []
  | first :: rest => lexemes first :: lexemesOfEach rest

end

end Condition

/-- The lexemes of the clause of an origin. -/
def Origin.lexemes (origin : Origin) : List Lexeme :=
  [.word "FROM", space, .word origin.collection.token, space, .aliasName origin.root]

/-- The lexemes of the clause of a join. -/
def Join.lexemes (join : Join) : List Lexeme :=
  [.word "JOIN", space, .aliasName join.target, space, .word "RELATED", space,
    .aliasName join.source, .sign ['.'], .name join.relationship.toList] ++
      join.relationshipAlias.elim [] fun name => [space, .aliasName name]

/-- The lexemes of an entry: an alias, and what it names of that. -/
def entryLexemes (entry : String) : List Lexeme :=
  [.aliasName (Text.firstPart '.' entry), .name (entry.toList.dropWhile (· != '.'))]

/-- The lexemes of a cap, with the space before it. -/
def topLexemes : Option UInt16 → List Lexeme
  | none => []
  | some limit => space :: call "TOP" [[.numeral (Nat.toDigits 10 limit.toNat)]]

/-- The lexemes of the clause of a projection. -/
def Projection.lexemes : Projection → List Lexeme
  | select selection =>
    .word "SELECT" ::
      (topLexemes selection.top ++ space :: commaSeparated (selection.entries.map entryLexemes))
  | count => .word "SELECT" :: space :: call "COUNT" []

/-- The lexemes of the clause of a condition, with the space before it. -/
def whereLexemes (condition : Condition) : List Lexeme :=
  space :: .word "WHERE" :: space :: condition.lexemes

/-- The lexemes of a query. -/
def Query.lexemes (query : Query) : List Lexeme :=
  query.projection.lexemes ++ space :: (query.origin.lexemes ++
    (query.joins.flatMap (space :: ·.lexemes) ++ query.condition.elim [] whereLexemes))

/-- Every word of the language that a query text can hold. -/
def languageWords : List String :=
  ["SELECT", "TOP", "COUNT", "FROM", "JOIN", "RELATED", "WHERE", "NOT", "IS_OF_MODEL", "true",
    "false", "null"] ++
  Collection.all.map Collection.token ++ MembershipKind.all.map MembershipKind.token ++
  Connective.all.map Connective.token ++ ScalarFunction.all.map ScalarFunction.token

end TwinGraph
