import TwinGraph.Literal

/-!
# Conditions

A condition is a tree whose leaves test one property or one model and whose inner nodes negate or
group.  Conditions are built by calls that refuse an argument which no query text can hold; a tree
that these calls did not build need not have a text that can be read.  The conditions that exist for
a caller are those that the calls give, one call on the results of others, and whatever all of them
have in common is shown along this relation.
-/

namespace TwinGraph

/-- A condition on the twins or relationships of a query.  A qualifier is the alias that a property
belongs to, and an empty one leaves the property to the root of the query. -/
inductive Condition where
  /-- A property compared to a literal. -/
  | comparison (qualifier column : String) (operator : ComparisonOperator) (value : Literal)
  /-- A property among some strings, or among none of them. -/
  | membership (qualifier column : String) (kind : MembershipKind) (values : List String)
  /-- A twin of a model, whatever version the identifier of the model has. -/
  | modelTest (qualifier : Option String) (identifier : String)
  /-- A scalar function of a property, with a string if it takes one. -/
  | scalarTest (qualifier column : String) (function : ScalarFunction) (argument : Option String)
  /-- A condition that has to fail. -/
  | negation (inner : Condition)
  /-- Conditions that are joined by one connective. -/
  | group (connective : Connective) (children : List Condition)

namespace Condition

@[elab_as_elim]
theorem induction_on {motive : Condition → Prop} (condition : Condition)
    (comparison : ∀ qualifier column operator value,
      motive (.comparison qualifier column operator value))
    (membership : ∀ qualifier column kind values, motive (.membership qualifier column kind values))
    (modelTest : ∀ qualifier identifier, motive (.modelTest qualifier identifier))
    (scalarTest : ∀ qualifier column function argument,
      motive (.scalarTest qualifier column function argument))
    (negation : ∀ inner, motive inner → motive (.negation inner))
    (group : ∀ connective children, (∀ child ∈ children, motive child) →
      motive (.group connective children)) : motive condition :=
  Condition.rec (motive_1 := motive) (motive_2 := fun children => ∀ child ∈ children, motive child)
    comparison membership modelTest scalarTest negation group
    (fun _ member => absurd member List.not_mem_nil)
    (fun _ _ head tail child member => by
      rcases List.mem_cons.mp member with rfl | member
      · exact head
      · exact tail child member)
    condition

/-- A property compared to a literal.  The column is looked at before the literal. -/
def compare (qualifier column : String) (operator : ComparisonOperator) (value : Literal) :
    Except QueryError Condition := do
  requireNonBlank "column" column
  if value.isFinite then
    return comparison qualifier column operator value
  else
    throw (.invalidArgument "value" (.noRepresentation value.text))

/-- A property among some strings, or among none of them. -/
def isMember (qualifier column : String) (kind : MembershipKind) (values : List String) :
    Except QueryError Condition := do
  requireNonBlank "column" column
  return membership qualifier column kind values

/-- The identifier of a model without its version, which begins at the first semicolon. -/
def modelName (identifier : String) : String :=
  Text.firstPart ';' identifier

/-- A twin of a model.  An empty qualifier is none. -/
def isOfModel (qualifier : Option String) (identifier : String) : Except QueryError Condition := do
  requireNonBlank "model" (modelName identifier)
  return modelTest (qualifier.filter (· != "")) identifier

/-- A scalar function of a property. -/
def test (qualifier column : String) (function : ScalarFunction) (argument : Option String) :
    Except QueryError Condition := do
  requireNonBlank "column" column
  return scalarTest qualifier column function argument

/-- The negation of a condition. -/
def negate (condition : Condition) : Condition :=
  negation condition

/-- A group of a first condition and more. -/
def grouped (connective : Connective) (first : Condition) (rest : List Condition) : Condition :=
  group connective (first :: rest)

/-- A group of conditions, of which there has to be one. -/
def groupOf (connective : Connective) : List Condition → Except QueryError Condition
  | [] => .error (.invalidArgument "conditions" (.emptyGroup connective))
  | first :: rest => .ok (grouped connective first rest)

/-- Conditions that have to hold together. -/
def all (conditions : List Condition) : Except QueryError Condition :=
  groupOf .conjunction conditions

/-- Conditions of which one has to hold. -/
def any (conditions : List Condition) : Except QueryError Condition :=
  groupOf .disjunction conditions

/-- Two conditions that have to hold together, as a group of their own. -/
def both (left right : Condition) : Condition :=
  grouped .conjunction left [right]

/-- Two conditions of which one has to hold, as a group of their own. -/
def either (left right : Condition) : Condition :=
  grouped .disjunction left [right]

mutual

/-- Equality of trees whose literals are equal as values. -/
def same : Condition → Condition → Bool
  | comparison qualifier column operator value,
      comparison qualifier' column' operator' value' =>
    qualifier == qualifier' && column == column' && operator == operator' && value.same value'
  | membership qualifier column kind values, membership qualifier' column' kind' values' =>
    qualifier == qualifier' && column == column' && kind == kind' && values == values'
  | modelTest qualifier identifier, modelTest qualifier' identifier' =>
    qualifier == qualifier' && identifier == identifier'
  | scalarTest qualifier column function argument,
      scalarTest qualifier' column' function' argument' =>
    qualifier == qualifier' && column == column' && function == function' && argument == argument'
  | negation inner, negation inner' => same inner inner'
  | group connective children, group connective' children' =>
    connective == connective' && sameEach children children'
  | _, _ => false

/-- Equality of lists of trees, one by one. -/
def sameEach : List Condition → List Condition → Bool
  | [], [] => true
  | first :: rest, first' :: rest' => same first first' && sameEach rest rest'
  | _, _ => false

end

mutual

/-- The aliases that a condition refers to, in the order of its text and as often as they occur. -/
def aliases : Condition → List String
  | comparison qualifier _ _ _ => [qualifier].filter (· != "")
  | membership qualifier _ _ _ => [qualifier].filter (· != "")
  | modelTest qualifier _ => qualifier.toList.filter (· != "")
  | scalarTest qualifier _ _ _ => [qualifier].filter (· != "")
  | negation inner => aliases inner
  | group _ children => aliasesOfEach children

/-- The aliases that conditions refer to, one condition after the other. -/
def aliasesOfEach : List Condition → List String
  | [] => []
  | first :: rest => aliases first ++ aliasesOfEach rest

end

theorem aliasesOfEach_eq (conditions : List Condition) :
    aliasesOfEach conditions = conditions.flatMap aliases := by
  induction conditions with
  | nil => rfl
  | cons first rest ih => simp [aliasesOfEach, ih]

theorem aliases_group (connective : Connective) (children : List Condition) :
    aliases (group connective children) = children.flatMap aliases := by
  rw [aliases, aliasesOfEach_eq]

/-- A condition that calls on conditions give. -/
inductive Built : Condition → Prop where
  | compare {qualifier column : String} {operator : ComparisonOperator} {value : Literal}
      {condition : Condition} (made : compare qualifier column operator value = .ok condition) :
      Built condition
  | isMember {qualifier column : String} {kind : MembershipKind} {values : List String}
      {condition : Condition} (made : isMember qualifier column kind values = .ok condition) :
      Built condition
  | isOfModel {qualifier : Option String} {identifier : String} {condition : Condition}
      (made : isOfModel qualifier identifier = .ok condition) : Built condition
  | test {qualifier column : String} {function : ScalarFunction} {argument : Option String}
      {condition : Condition} (made : test qualifier column function argument = .ok condition) :
      Built condition
  | negate {condition : Condition} (inner : Built condition) : Built condition.negate
  | grouped {connective : Connective} {first : Condition} {rest : List Condition}
      (head : Built first) (tail : ∀ condition ∈ rest, Built condition) :
      Built (grouped connective first rest)
  | groupOf {connective : Connective} {conditions : List Condition} {condition : Condition}
      (each : ∀ condition ∈ conditions, Built condition)
      (made : groupOf connective conditions = .ok condition) : Built condition

namespace Built

theorem both {left right : Condition} (first : Built left) (second : Built right) :
    Built (left.both right) :=
  grouped first (by simpa using second)

theorem either {left right : Condition} (first : Built left) (second : Built right) :
    Built (left.either right) :=
  grouped first (by simpa using second)

theorem all {conditions : List Condition} {condition : Condition}
    (each : ∀ condition ∈ conditions, Built condition)
    (made : Condition.all conditions = .ok condition) : Built condition :=
  groupOf each made

theorem any {conditions : List Condition} {condition : Condition}
    (each : ∀ condition ∈ conditions, Built condition)
    (made : Condition.any conditions = .ok condition) : Built condition :=
  groupOf each made

end Built

end Condition
end TwinGraph
