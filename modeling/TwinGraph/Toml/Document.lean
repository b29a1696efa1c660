import TwinGraph.Toml.Scalar
import TwinGraph.Toml.Text

/-!
# TOML documents

A document is read line by line.  A line holds the header of a table, or a key and its value for
the table of the last header, or nothing but a comment.  Every line only adds to the tables of the
lines before it; one that would define something twice is refused with the whole document.
-/

namespace TwinGraph
namespace Toml

/-- A character of a key without quotes. -/
def isKeyCharacter (character : Char) : Bool :=
  character.isAlphanum || character == '_' || character == '-'

/-- One part of a key at the front of a text. -/
def readKeyPart : List Char → Option (String × List Char)
  | '"' :: rest => (readBasic .plain rest).map fun (key, rest) => (String.ofList key, rest)
  | '\'' :: rest => (readLiteral rest).map fun (key, rest) => (String.ofList key, rest)
  | text =>
    let (key, rest) := text.span isKeyCharacter
    if key.isEmpty then none else some (String.ofList key, rest)

/-- The parts of a key at the front of a text, of which there may be so many: those before the last
one, and the last one. -/
def readKeyParts : Nat → List Char → Option ((List String × String) × List Char)
  | 0, _ => none
  | parts + 1, text => do
    let (part, rest) ← readKeyPart (skipBlanks text)
    match skipBlanks rest with
    | '.' :: rest =>
      let ((path, last), rest) ← readKeyParts parts rest
      some ((part :: path, last), rest)
    | rest => some (([], part), rest)

/-- How deep one key or one value may lead: how many parts a key may have, and how deep arrays and
tables in braces may be nested. -/
def deepestNesting : Nat := 80

/-- A key at the front of a text: the parts before the last one, and the last one. -/
def readKey (text : List Char) : Option ((List String × String) × List Char) :=
  readKeyParts deepestNesting text

mutual

/-- The value at the front of a text, in which arrays and tables in braces are nested at most
`levels` deep.  Every value within has a shorter text, so the length of the text is a bound. -/
def readValue (levels : Nat) : Nat → List Char → Option (Value × List Char)
  | 0, _ => none
  | bound + 1, text =>
    match text with
    | '[' :: rest =>
      if levels = 0 then none
      else (readElements (levels - 1) bound rest).map fun (elements, rest) =>
        (.array elements, rest)
    | '\x7b' :: rest =>
      if levels = 0 then none
      else (readEntries (levels - 1) bound [] rest).map fun (entries, rest) =>
        (.table .inline entries, rest)
    | '"' :: _ | '\'' :: _ => (readString text).map fun (contents, rest) =>
      (.string (String.ofList contents), rest)
    | _ => readScalar text

/-- The elements of an array after its opening bracket or a comma. -/
def readElements (levels : Nat) : Nat → List Char → Option (List Value × List Char)
  | 0, _ => none
  | bound + 1, text =>
    match skipLines false text with
    | ']' :: rest => some ([], rest)
    | text => do
      let (element, rest) ← readValue levels bound text
      match skipLines false rest with
      | ']' :: rest => some ([element], rest)
      | ',' :: rest =>
        let (elements, rest) ← readElements levels bound rest
        some (element :: elements, rest)
      | _ => none

/-- The entries of a table in braces after its opening brace or a comma, added to those before.
Lines may end anywhere but inside a key. -/
def readEntries (levels : Nat) : Nat → Entries → List Char → Option (Entries × List Char)
  | 0, _, _ => none
  | bound + 1, entries, text =>
    match skipLines false text with
    | '\x7d' :: rest => some (entries, rest)
    | text => do
      let ((path, key), rest) ← readKey text
      match skipLines false rest with
      | '=' :: rest =>
        let (value, rest) ← readValue levels bound (skipLines false rest)
        let entries ← entries.assign? path key value
        match skipLines false rest with
        | '\x7d' :: rest => some (entries, rest)
        | ',' :: rest => readEntries levels bound entries rest
        | _ => none
      | _ => none

end

/-- A document as far as it has been read. -/
structure Progress where
  /-- The entries of the root. -/
  root : Entries
  /-- The path to the table of the last header. -/
  current : List String

namespace Progress

/-- A document of which nothing has been read. -/
def start : Progress := ⟨[], []⟩

/-- Follow the header of a table at the front of a text, after its opening bracket. -/
def readHeader (progress : Progress) (text : List Char) : Option (Progress × List Char) := do
  let ((path, key), rest) ← readKey text
  match rest with
  | ']' :: rest =>
    let root ← progress.root.update? .header (·.declare? key) path
    some (⟨root, path ++ [key]⟩, rest)
  | _ => none

/-- Follow the header of one table of many at the front of a text, after its opening brackets. -/
def readNextHeader (progress : Progress) (text : List Char) : Option (Progress × List Char) := do
  let ((path, key), rest) ← readKey text
  match rest with
  | ']' :: ']' :: rest =>
    let root ← progress.root.update? .header (·.declareNext? key) path
    some (⟨root, path ++ [key]⟩, rest)
  | _ => none

/-- Follow a key and its value at the front of a text. -/
def readAssignment (progress : Progress) (text : List Char) : Option (Progress × List Char) := do
  let ((path, key), rest) ← readKey text
  match rest with
  | '=' :: rest =>
    let (value, rest) ← readValue deepestNesting (text.length + 1) (skipBlanks rest)
    let root ← progress.root.update? .header (·.assign? path key value) progress.current
    some (⟨root, progress.current⟩, rest)
  | _ => none

/-- Follow what stands before the end of a line and a comment. -/
def readExpression (progress : Progress) (text : List Char) : Option (Progress × List Char) :=
  match text with
  | '[' :: '[' :: rest => progress.readNextHeader rest
  | '[' :: rest => progress.readHeader rest
  | _ => progress.readAssignment text

/-- Follow the lines of a text.  Every line has a character at least, so the length of the text is
a bound. -/
def readLines : Nat → Progress → List Char → Option Progress
  | 0, _, _ => none
  | bound + 1, progress, text =>
    match skipLines false text with
    | [] => some progress
    | text => do
      let (progress, rest) ← progress.readExpression text
      let rest ← afterLine? rest
      readLines bound progress rest

end Progress

/-- The text without the mark with which some editors begin a file. -/
def skipByteOrderMark : List Char → List Char
  | '\ufeff' :: rest => rest
  | text => text

/-- The entries of the root of a document, if the text is one. -/
def readDocument? (text : String) : Option Entries :=
  let text := skipByteOrderMark text.toList
  (Progress.readLines (text.length + 1) .start text).map (·.root)

end Toml
end TwinGraph
