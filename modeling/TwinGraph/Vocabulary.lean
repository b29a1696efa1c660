import TwinGraph.Text.Character

/-!
# The vocabulary of the query language

The fixed words of a query text: collections, operators, connectives and scalar functions.  Each
kind of word is known to callers by a name of its own and is written as a token.  The reserved
words can be no alias, however their letters are cased.
-/

namespace TwinGraph

/-- What a query reads from. -/
inductive Collection where
  | digitalTwins
  | relationships
  deriving DecidableEq

namespace Collection

/-- Every collection. -/
def all : List Collection := [digitalTwins, relationships]

/-- The name by which callers ask for a collection. -/
def name : Collection → String
  | digitalTwins => "digital_twins"
  | relationships => "relationships"

/-- The collection of a name. -/
def ofName? (name : String) : Option Collection :=
  all.find? (·.name == name)

/-- The word for a collection in a query text. -/
def token : Collection → String
  | digitalTwins => "DIGITALTWINS"
  | relationships => "RELATIONSHIPS"

end Collection

/-- How a comparison relates a property to a literal. -/
inductive ComparisonOperator where
  | equal
  | notEqual
  | greaterThan
  | greaterOrEqual
  | lessThan
  | lessOrEqual
  deriving DecidableEq

namespace ComparisonOperator

/-- Every comparison operator. -/
def all : List ComparisonOperator :=
  [equal, notEqual, greaterThan, greaterOrEqual, lessThan, lessOrEqual]

/-- The name by which callers ask for an operator. -/
def name : ComparisonOperator → String
  | equal => "equal"
  | notEqual => "not_equal"
  | greaterThan => "greater_than"
  | greaterOrEqual => "greater_or_equal"
  | lessThan => "less_than"
  | lessOrEqual => "less_or_equal"

/-- The operator of a name. -/
def ofName? (name : String) : Option ComparisonOperator :=
  all.find? (·.name == name)

/-- The sign for an operator in a query text. -/
def token : ComparisonOperator → String
  | equal => "="
  | notEqual => "!="
  | greaterThan => ">"
  | greaterOrEqual => ">="
  | lessThan => "<"
  | lessOrEqual => "<="

end ComparisonOperator

/-- Whether a property is among some values, or among none of them. -/
inductive MembershipKind where
  | among
  | notAmong
  deriving DecidableEq

namespace MembershipKind

/-- Both kinds of membership. -/
def all : List MembershipKind := [among, notAmong]

/-- The name by which callers ask for a kind of membership. -/
def name : MembershipKind → String
  | among => "in"
  | notAmong => "not_in"

/-- The kind of membership of a name. -/
def ofName? (name : String) : Option MembershipKind :=
  all.find? (·.name == name)

/-- The word for a kind of membership in a query text. -/
def token : MembershipKind → String
  | among => "IN"
  | notAmong => "NIN"

end MembershipKind

/-- How a group joins its conditions. -/
inductive Connective where
  | conjunction
  | disjunction
  deriving DecidableEq

namespace Connective

/-- Both connectives. -/
def all : List Connective := [conjunction, disjunction]

/-- The name by which callers ask for a connective. -/
def name : Connective → String
  | conjunction => "and"
  | disjunction => "or"

/-- The connective of a name. -/
def ofName? (name : String) : Option Connective :=
  all.find? (·.name == name)

/-- The word for a connective in a query text. -/
def token : Connective → String
  | conjunction => "AND"
  | disjunction => "OR"

end Connective

/-- How many operands a scalar function takes. -/
inductive Arity where
  /-- The property alone. -/
  | unary
  /-- The property and a string. -/
  | binary
  deriving DecidableEq

namespace Arity

/-- The name of an arity. -/
def name : Arity → String
  | unary => "unary"
  | binary => "binary"

end Arity

/-- The tests that can be made on one property. -/
inductive ScalarFunction where
  | isBool
  | isDefined
  | isNull
  | isNumber
  | isObject
  | isPrimitive
  | isString
  | startsWith
  | endsWith
  | contains
  deriving DecidableEq

namespace ScalarFunction

/-- Every scalar function. -/
def all : List ScalarFunction :=
  [isBool, isDefined, isNull, isNumber, isObject, isPrimitive, isString, startsWith, endsWith,
    contains]

/-- The name by which callers ask for a function. -/
def name : ScalarFunction → String
  | isBool => "is_bool"
  | isDefined => "is_defined"
  | isNull => "is_null"
  | isNumber => "is_number"
  | isObject => "is_object"
  | isPrimitive => "is_primitive"
  | isString => "is_string"
  | startsWith => "starts_with"
  | endsWith => "ends_with"
  | contains => "contains"

/-- The function of a name. -/
def ofName? (name : String) : Option ScalarFunction :=
  all.find? (·.name == name)

/-- The word for a function in a query text. -/
def token : ScalarFunction → String
  | isBool => "IS_BOOL"
  | isDefined => "IS_DEFINED"
  | isNull => "IS_NULL"
  | isNumber => "IS_NUMBER"
  | isObject => "IS_OBJECT"
  | isPrimitive => "IS_PRIMITIVE"
  | isString => "IS_STRING"
  | startsWith => "STARTSWITH"
  | endsWith => "ENDSWITH"
  | contains => "CONTAINS"

/-- The operands that a function takes. -/
def arity : ScalarFunction → Arity
  | startsWith | endsWith | contains => .binary
  | _ => .unary

end ScalarFunction

/-- The words that can be no alias, in alphabetical order. -/
def reservedWords : List String :=
  ["ALL", "AND", "AS", "ASC", "AVG", "BY", "COUNT", "DESC", "DEVICES", "DIGITALTWINS", "DISTINCT",
    "EDGES", "EVERY", "FALSE", "FETCH", "FIRST", "FROM", "GROUP", "IN", "INNER", "IS_BOOL",
    "IS_DEFINED", "IS_NULL", "IS_NUMBER", "IS_OBJECT", "IS_OF_MODEL", "IS_PRIMITIVE", "IS_STRING",
    "JOIN", "LAST", "LEFT", "LIMIT", "MATCH", "MAX", "MIN", "NIN", "NOT", "NULL", "OFFSET", "ON",
    "OR", "ORDER", "OUTER", "RELATED", "RELATIONSHIPS", "RIGHT", "SELECT", "SOME", "SUM", "TOP",
    "TRUE", "UNDEFINED", "WHERE"]

/-- Whether a word is reserved in any casing of its ASCII letters. -/
def isReserved (word : String) : Bool :=
  reservedWords.any (Text.equalIgnoringCase · word)

theorem ComparisonOperator.ofName?_name (operator : ComparisonOperator) :
    ofName? operator.name = some operator := by
  cases operator <;> decide

theorem MembershipKind.ofName?_name (kind : MembershipKind) : ofName? kind.name = some kind := by
  cases kind <;> decide

theorem ScalarFunction.ofName?_name (function : ScalarFunction) :
    ofName? function.name = some function := by
  cases function <;> decide

theorem isReserved_iff {word : String} :
    isReserved word = true ↔ ∃ reserved ∈ reservedWords,
      Text.upperCase reserved = Text.upperCase word := by
  simp [isReserved, Text.equalIgnoringCase_iff]

end TwinGraph
