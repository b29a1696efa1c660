import TwinGraph.Alias
import TwinGraph.Json
import TwinGraph.Toml.Document

/-!
# Configurations

The aliases that queries begin with unless told otherwise, and whether the text of a query is
announced when it is made.  A configuration comes from its parts, from a JSON value, from a TOML
document or from a file that holds one; what is not given takes its default.
-/

namespace TwinGraph

/-- What queries begin with. -/
structure Configuration where
  /-- The root alias of queries on twins. -/
  twinAlias : String := "twin"
  /-- The root alias of queries on relationships. -/
  relationshipAlias : String := "relationship"
  /-- Whether an event tells of every text that is made. -/
  logRendered : Bool := false
  deriving DecidableEq

namespace Configuration

/-- The configuration that gives nothing. -/
def default : Configuration := {}

/-- The alias that queries on a collection begin with. -/
def root (configuration : Configuration) : Collection → String
  | .digitalTwins => configuration.twinAlias
  | .relationships => configuration.relationshipAlias

/-- A fault of a configuration in place of a refused argument. -/
def asFault : QueryError → QueryError
  | .invalidArgument field reason => .configuration (.unusable field reason)
  | error => error

/-- Refuse a configuration whose root aliases cannot be used, that of twins first. -/
def validate (configuration : Configuration) : Except QueryError Unit := do
  (validateAlias "twin_alias" configuration.twinAlias).mapError asFault
  (validateAlias "relationship_alias" configuration.relationshipAlias).mapError asFault

/-- The value of a key that may be missing. -/
def optional {α β : Type} (value? : Option α) (fallback : β) (read : α → Option β) : Option β :=
  match value? with
  | none => some fallback
  | some value => read value

/-- The string that a JSON value is. -/
def jsonString? : Json.Value → Option String
  | .string value => some value
  | _ => none

/-- The boolean that a JSON value is. -/
def jsonBoolean? : Json.Value → Option Bool
  | .boolean value => some value
  | _ => none

/-- The configuration that a JSON value describes: an object with its parts by their keys, where
other keys are passed over, or an array with its parts in order. -/
def ofJson? : Json.Value → Option Configuration
  | .object members => do
    let twinAlias ← optional (members.lookup "twin_alias") default.twinAlias jsonString?
    let relationshipAlias ←
      optional (members.lookup "relationship_alias") default.relationshipAlias jsonString?
    let logRendered ← optional (members.lookup "log_rendered") default.logRendered jsonBoolean?
    some ⟨twinAlias, relationshipAlias, logRendered⟩
  | .array elements =>
    if 3 < elements.length then none
    else do
      let twinAlias ← optional elements[0]? default.twinAlias jsonString?
      let relationshipAlias ← optional elements[1]? default.relationshipAlias jsonString?
      let logRendered ← optional elements[2]? default.logRendered jsonBoolean?
      some ⟨twinAlias, relationshipAlias, logRendered⟩
  | _ => none

/-- The string that a TOML value is. -/
def tomlString? : Toml.Value → Option String
  | .string value => some value
  | _ => none

/-- The boolean that a TOML value is. -/
def tomlBoolean? : Toml.Value → Option Bool
  | .boolean value => some value
  | _ => none

/-- The configuration that the entries of a TOML document describe. -/
def ofEntries? (entries : Toml.Entries) : Option Configuration := do
  let twinAlias ← optional (entries.get? "twin_alias") default.twinAlias tomlString?
  let relationshipAlias ←
    optional (entries.get? "relationship_alias") default.relationshipAlias tomlString?
  let logRendered ← optional (entries.get? "log_rendered") default.logRendered tomlBoolean?
  some ⟨twinAlias, relationshipAlias, logRendered⟩

/-- The configuration that a document describes, before its aliases are looked at.  `read` gives the
entries of a text, if it is a document. -/
def parse (read : String → Option Toml.Entries) (document : String) :
    Except QueryError Configuration :=
  match read document with
  | none => .error (.configuration (.malformed "the text is no TOML document"))
  | some entries =>
    match ofEntries? entries with
    | none => .error (.configuration (.malformed "an entry has a value of another type"))
    | some configuration => .ok configuration

/-- The configuration that a document describes to a reader, if its aliases can be used. -/
def ofDocument (read : String → Option Toml.Entries) (document : String) :
    Except QueryError Configuration := do
  let configuration ← parse read document
  configuration.validate
  return configuration

/-- The configuration that a TOML document describes. -/
def ofToml : String → Except QueryError Configuration :=
  ofDocument Toml.readDocument?

/-- The text of the file at a path.  The system has `found` there: bytes, or a reason in its words
why there are none.  It is not asked for a name that it cannot be told. -/
def readText (path : String) (found : Except String ByteArray) : Except ReadFault String :=
  if '\x00' ∈ path.toList then .error .terminatorInName
  else do
    let contents ← found.mapError .system
    match String.fromUTF8? contents with
    | none => .error .notText
    | some text => .ok text

/-- The configuration of the file at a path, where the system has `found`.  An event tells that the
file was read before its text is looked at. -/
def ofFile (path : String) (found : Except String ByteArray) : Traced QueryError Configuration := do
  let document ← Traced.silent ((readText path found).mapError fun fault =>
    .configuration (.unreadable path fault))
  Traced.record (.loaded path)
  Traced.silent (ofToml document)

end Configuration
end TwinGraph
