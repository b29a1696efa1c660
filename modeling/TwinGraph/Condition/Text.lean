import TwinGraph.Condition.Basic

/-!
# The text of a condition

Every predicate names its property first.  A group stands in parentheses, also when it has a single
member, while a negation stands bare before what it negates.
-/

namespace TwinGraph
namespace Condition

/-- A property after its qualifier, or bare without one. -/
def qualify (qualifier column : String) : List Char :=
  if qualifier = "" then column.toList else qualifier.toList ++ '.' :: column.toList

/-- The version that every model is asked for. -/
def pinnedVersion : Nat := 1

/-- The identifier of a model with its version replaced by the pinned one. -/
def versionedModel (identifier : String) : String :=
  String.ofList ((modelName identifier).toList ++ ';' :: Nat.toDigits 10 pinnedVersion)

/-- The arguments of a call in parentheses after the name of what is called. -/
def renderCall (name : String) (arguments : List (List Char)) : List Char :=
  name.toList ++ '(' :: (Text.commaSeparated arguments ++ [')'])

/-- The text of a function of a property.  A string that a function takes and that is missing is
empty, and one that it does not take is left out. -/
def renderTest (target : List Char) (function : ScalarFunction) (argument : Option String) :
    List Char :=
  match function.arity with
  | .unary => renderCall function.token [target]
  | .binary => renderCall function.token [target, Text.quote (argument.getD "")]

/-- The text between two members of a group. -/
def renderConnective (connective : Connective) : List Char :=
  ' ' :: (connective.token.toList ++ [' '])

mutual

/-- A condition as it stands in a query text. -/
def render : Condition → List Char
  | comparison qualifier column operator value =>
    qualify qualifier column ++ ' ' :: (operator.token.toList ++ ' ' :: value.render)
  | membership qualifier column kind values =>
    qualify qualifier column ++ ' ' :: (kind.token.toList ++
      ' ' :: '[' :: (Text.quoteList values ++ [']']))
  | modelTest qualifier identifier =>
    renderCall "IS_OF_MODEL"
      (qualifier.toList.map String.toList ++ [Text.quote (versionedModel identifier)])
  | scalarTest qualifier column function argument =>
    renderTest (qualify qualifier column) function argument
  | negation inner => "NOT ".toList ++ render inner
  | group connective children =>
    '(' :: ((renderConnective connective).intercalate (renderEach children) ++ [')'])

/-- The texts of conditions in order. -/
def renderEach : List Condition → List (List Char)
  | [] => []
  | first :: rest => render first :: renderEach rest

end

/-- The text of a condition. -/
def text (condition : Condition) : String :=
  String.ofList condition.render

theorem renderEach_eq (conditions : List Condition) :
    renderEach conditions = conditions.map render := by
  induction conditions with
  | nil => rfl
  | cons first rest ih => simp [renderEach, ih]

theorem render_group (connective : Connective) (children : List Condition) :
    render (group connective children) =
      '(' :: ((renderConnective connective).intercalate (children.map render) ++ [')']) := by
  rw [render, renderEach_eq]

theorem text_inj {left right : Condition} :
    left.text = right.text ↔ left.render = right.render := by
  simp [text, String.ofList_inj]

end Condition
end TwinGraph
