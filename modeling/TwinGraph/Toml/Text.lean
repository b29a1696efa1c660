import TwinGraph.Text.Character

/-!
# Spaces, comments and strings of TOML

The parts of a document that are read character by character.  Each reader takes the characters
that are left and gives what follows, or nothing if the text does not begin as it has to.
-/

namespace TwinGraph
namespace Toml

/-- A space or a tab. -/
def isBlank (character : Char) : Bool :=
  character == ' ' || character == '\t'

/-- A character that may stand in a comment or a string: no control character but the tab. -/
def isPlain (character : Char) : Bool :=
  character == '\t' || (0x20 ≤ character.toNat && character.toNat != 0x7F)

/-- The text without the spaces and tabs at its front. -/
def skipBlanks (text : List Char) : List Char :=
  text.dropWhile isBlank

/-- The text after the end of line at its front. -/
def afterNewline? : List Char → Option (List Char)
  | '\n' :: rest => some rest
  | '\r' :: '\n' :: rest => some rest
  | _ => none

/-- The text without the comment at its front. -/
def skipComment : List Char → List Char
  | '#' :: rest => rest.dropWhile isPlain
  | text => text

/-- The text after the end of the line, before which only a comment may stand. -/
def afterLine? (text : List Char) : Option (List Char) :=
  match skipComment (skipBlanks text) with
  | [] => some []
  | rest => afterNewline? rest

/-- The text without the spaces, ends of lines and comments at its front. -/
def skipLines (inComment : Bool) : List Char → List Char
  | [] => []
  | '\n' :: rest => skipLines false rest
  | '\r' :: '\n' :: rest => skipLines false rest
  | character :: rest =>
    if inComment then
      if isPlain character then skipLines true rest else character :: rest
    else if isBlank character then skipLines false rest
    else if character == '#' then skipLines true rest
    else character :: rest

/-- The character for which a letter stands after a backslash. -/
def escaped? : Char → Option Char
  | 'b' => some '\x08'
  | 't' => some '\t'
  | 'n' => some '\n'
  | 'f' => some '\x0c'
  | 'r' => some '\r'
  | 'e' => some '\x1b'
  | '"' => some '"'
  | '\\' => some '\\'
  | _ => none

/-- How many digits of base sixteen follow a letter after a backslash. -/
def codeLength? : Char → Option Nat
  | 'x' => some 2
  | 'u' => some 4
  | 'U' => some 8
  | _ => none

/-- What the characters before a place in a string ask of the next one. -/
inductive StringState where
  /-- Nothing. -/
  | plain
  /-- The letter after a backslash. -/
  | letter
  /-- Some more digits of a code. -/
  | code (missing : Nat) (value : Nat)
  /-- The end of the line that a backslash continues. -/
  | lineEnd
  /-- Anything but white space, after a continued line. -/
  | nextLine

/-- The contents of a string of one line in double quotes, after the opening one. -/
def readBasic : StringState → List Char → Option (List Char × List Char)
  | _, [] => none
  | .letter, letter :: rest =>
    match codeLength? letter with
    | some length => readBasic (.code length 0) rest
    | none => do
      let character ← escaped? letter
      let (contents, rest) ← readBasic .plain rest
      some (character :: contents, rest)
  | .code missing value, digit :: rest => do
    let value := value * 16 + (← Text.digitValue? 16 digit)
    if missing ≤ 1 then
      let character ← Text.scalar? value
      let (contents, rest) ← readBasic .plain rest
      some (character :: contents, rest)
    else readBasic (.code (missing - 1) value) rest
  | _, character :: rest =>
    if character == '"' then some ([], rest)
    else if character == '\\' then readBasic .letter rest
    else if isPlain character then do
      let (contents, rest) ← readBasic .plain rest
      some (character :: contents, rest)
    else none

/-- The contents of a string of one line in single quotes, after the opening one. -/
def readLiteral : List Char → Option (List Char × List Char)
  | [] => none
  | character :: rest =>
    if character == '\'' then some ([], rest)
    else if isPlain character then do
      let (contents, rest) ← readLiteral rest
      some (character :: contents, rest)
    else none

/-- The end of a string of many lines: three quotes, before which two more belong to the string. -/
def readClosing? (quote : Char) (text : List Char) : Option (List Char × List Char) :=
  let count := (text.takeWhile (· == quote)).length
  if count < 3 then none
  else
    let kept := min (count - 3) 2
    some (List.replicate kept quote, text.drop (kept + 3))

/-- Whether an end of line stands at the front of a text. -/
def atNewline (text : List Char) : Bool :=
  (afterNewline? text).isSome

/-- The contents of a string of many lines in double quotes, after the opening ones. -/
def readLongBasic : StringState → List Char → Option (List Char × List Char)
  | _, [] => none
  | .letter, letter :: rest =>
    if isBlank letter || atNewline (letter :: rest) then
      readLongBasic (if letter == '\n' then .nextLine else .lineEnd) rest
    else
      match codeLength? letter with
      | some length => readLongBasic (.code length 0) rest
      | none => do
        let character ← escaped? letter
        let (contents, rest) ← readLongBasic .plain rest
        some (character :: contents, rest)
  | .code missing value, digit :: rest => do
    let value := value * 16 + (← Text.digitValue? 16 digit)
    if missing ≤ 1 then
      let character ← Text.scalar? value
      let (contents, rest) ← readLongBasic .plain rest
      some (character :: contents, rest)
    else readLongBasic (.code (missing - 1) value) rest
  | .lineEnd, character :: rest =>
    if character == '\n' then readLongBasic .nextLine rest
    else if isBlank character || atNewline (character :: rest) then readLongBasic .lineEnd rest
    else none
  | state, character :: rest =>
    match readClosing? '"' (character :: rest) with
    | some closing => some closing
    | none =>
      let between := match state with
        | .nextLine => isBlank character || atNewline (character :: rest)
        | _ => false
      if between then readLongBasic .nextLine rest
      else if character == '\\' then readLongBasic .letter rest
      else if isPlain character || atNewline (character :: rest) then do
        let (contents, rest) ← readLongBasic .plain rest
        some (character :: contents, rest)
      else none

/-- The contents of a string of many lines in single quotes, after the opening ones. -/
def readLongLiteral : List Char → Option (List Char × List Char)
  | [] => none
  | character :: rest =>
    match readClosing? '\'' (character :: rest) with
    | some closing => some closing
    | none =>
      if isPlain character || atNewline (character :: rest) then do
        let (contents, rest) ← readLongLiteral rest
        some (character :: contents, rest)
      else none

/-- The text without the end of line with which a string of many lines begins. -/
def dropFirstNewline (text : List Char) : List Char :=
  (afterNewline? text).getD text

/-- The string at the front of a text. -/
def readString : List Char → Option (List Char × List Char)
  | '"' :: '"' :: '"' :: rest => readLongBasic .plain (dropFirstNewline rest)
  | '"' :: rest => readBasic .plain rest
  | '\'' :: '\'' :: '\'' :: rest => readLongLiteral (dropFirstNewline rest)
  | '\'' :: rest => readLiteral rest
  | _ => none

end Toml
end TwinGraph
