import TwinGraph.Text.Character
import TwinGraph.Text.Separated
import TwinGraph.Vocabulary

/-!
# Why a call is refused

Every refusal is a cause: an argument that cannot be used, an alias that no clause introduced, an
alias that is introduced twice, or a configuration that cannot be taken.  The wording of all of
them stands in one place.
-/

namespace TwinGraph

/-- What is wrong with an argument. -/
inductive Reason where
  /-- White space at most, where something has to be named. -/
  | blank
  /-- No word that can stand without quotes. -/
  | notIdentifier (text : String)
  /-- A word of the query language. -/
  | reservedWord (text : String)
  /-- A literal, given by its text, that a query cannot hold. -/
  | noRepresentation (text : String)
  /-- A group of conditions that has none. -/
  | emptyGroup (connective : Connective)
  /-- No entry to project once the blank ones are dropped. -/
  | onlyBlankEntries
  /-- No entry to project at all. -/
  | noEntries
  /-- An array or an object, where a scalar is compared. -/
  | notScalar
  /-- A reason in the words of a caller. -/
  | other (words : String)
  deriving DecidableEq

namespace Reason

/-- The wording of a reason. -/
def message : Reason → String
  | blank => "must not be blank"
  | notIdentifier text => "'" ++ text ++ "' is not a valid identifier"
  | reservedWord text => "'" ++ text ++ "' is a reserved keyword"
  | noRepresentation text => text ++ " has no query representation"
  | emptyGroup connective => connective.token ++ " requires at least one condition"
  | onlyBlankEntries => "at least one non-blank alias is required"
  | noEntries => "at least one alias is required"
  | notScalar => "only scalar JSON values can be compared"
  | other words => words

end Reason

/-- Why a file gives no text. -/
inductive ReadFault where
  /-- The name holds the character that ends every name. -/
  | terminatorInName
  /-- The path leads to no bytes, for a reason in the words of the system. -/
  | system (words : String)
  /-- The bytes encode no text. -/
  | notText
  deriving DecidableEq

namespace ReadFault

/-- The wording of a fault of reading. -/
def message : ReadFault → String
  | terminatorInName => "file name contained an unexpected NUL byte"
  | system words => words
  | notText => "stream did not contain valid UTF-8"

end ReadFault

/-- Why a configuration cannot be taken. -/
inductive ConfigurationFault where
  /-- The file at a path gives no text. -/
  | unreadable (path : String) (fault : ReadFault)
  /-- The text is no document that describes a configuration. -/
  | malformed (detail : String)
  /-- A value cannot be used as an alias. -/
  | unusable (field : String) (reason : Reason)
  /-- A fault in the words of a caller. -/
  | other (words : String)
  deriving DecidableEq

/-- Why a call on a query, a condition or a configuration is refused. -/
inductive QueryError where
  /-- An argument is blank or malformed. -/
  | invalidArgument (field : String) (reason : Reason)
  /-- No clause introduced the alias; the aliases of the scope are `allowed`. -/
  | unknownAlias (name : String) (allowed : List String)
  /-- The alias stands for something already. -/
  | duplicateAlias (name : String)
  /-- The configuration cannot be taken. -/
  | configuration (fault : ConfigurationFault)
  deriving DecidableEq

/-- The wording of an unusable argument. -/
def invalidArgumentMessage (field : String) (reason : Reason) : String :=
  "Invalid argument `" ++ field ++ "`: " ++ reason.message

namespace ConfigurationFault

/-- The wording of a fault of a configuration. -/
def message : ConfigurationFault → String
  | unreadable path fault => "Failed to read " ++ path ++ ": " ++ fault.message
  | malformed detail => "Failed to parse: " ++ detail
  | unusable field reason => invalidArgumentMessage field reason
  | other words => words

end ConfigurationFault

namespace QueryError

/-- The wording of a refusal. -/
def message : QueryError → String
  | invalidArgument field reason => invalidArgumentMessage field reason
  | unknownAlias name allowed =>
    "Unknown alias '" ++ name ++ "' (in scope: " ++
      String.ofList (Text.commaSeparated (allowed.map String.toList)) ++ ")"
  | duplicateAlias name => "Alias '" ++ name ++ "' is already in scope"
  | configuration fault => "Configuration error: " ++ fault.message

end QueryError

/-- Refuse a blank text in a field. -/
def requireNonBlank (field text : String) : Except QueryError Unit :=
  if Text.isBlank text then .error (.invalidArgument field .blank) else .ok ()

end TwinGraph
