import TwinGraph.Text.Separated
import TwinGraph.Vocabulary

/-!
# Clauses

The parts of a query text, each with its own form.  A clause checks nothing: the query that puts
clauses together decides what may stand in them.
-/

namespace TwinGraph

/-- What a query reads from, and the alias of what it finds there. -/
structure Origin where
  /-- The collection. -/
  collection : Collection
  /-- The alias of its members. -/
  root : String
  deriving DecidableEq

/-- The clause of an origin. -/
def Origin.render (origin : Origin) : List Char :=
  "FROM ".toList ++ (origin.collection.token.toList ++ ' ' :: origin.root.toList)

/-- A step along a relationship to further twins. -/
structure Join where
  /-- The alias of the twins that are reached. -/
  target : String
  /-- The alias of the twins from which the relationship goes out. -/
  source : String
  /-- The relationship, as the model of the source names it. -/
  relationship : String
  /-- The alias of the relationship itself, if it has one. -/
  relationshipAlias : Option String
  deriving DecidableEq

/-- The aliases that a join introduces, in order. -/
def Join.introduced (join : Join) : List String :=
  join.target :: join.relationshipAlias.toList

/-- The clause of a join. -/
def Join.render (join : Join) : List Char :=
  "JOIN ".toList ++ (join.target.toList ++ (" RELATED ".toList ++ (join.source.toList ++
    '.' :: (join.relationship.toList ++ (join.relationshipAlias.elim [] (' ' :: ·.toList))))))

/-- Entries to project, and a cap on the number of records. -/
structure Selection where
  /-- The entries in order. -/
  entries : List String
  /-- The greatest number of records, if there is a cap. -/
  top : Option UInt16
  deriving DecidableEq

/-- The text of a cap, with the space before it. -/
def renderTop : Option UInt16 → List Char
  | none => []
  | some limit => " TOP(".toList ++ (Nat.toDigits 10 limit.toNat ++ [')'])

/-- The clause of a selection. -/
def Selection.render (selection : Selection) : List Char :=
  "SELECT".toList ++ (renderTop selection.top ++
    ' ' :: Text.commaSeparated (selection.entries.map String.toList))

/-- What a query gives: entries of each record, or the number of records. -/
inductive Projection where
  | select (selection : Selection)
  | count
  deriving DecidableEq

/-- The clause of a count. -/
def renderCount : List Char := "SELECT COUNT()".toList

/-- The clause of a projection. -/
def Projection.render : Projection → List Char
  | select selection => selection.render
  | count => renderCount

/-- The cap of a projection, if it has one. -/
def Projection.top : Projection → Option UInt16
  | select selection => selection.top
  | count => none

/-- The clause of a condition, given by its text. -/
def renderWhere (condition : List Char) : List Char :=
  "WHERE ".toList ++ condition

end TwinGraph
