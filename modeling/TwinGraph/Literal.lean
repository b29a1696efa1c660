import TwinGraph.Error
import TwinGraph.Json
import TwinGraph.Number.Shortest
import TwinGraph.Text.Quoted

/-!
# Literals

The scalar values to which a property is compared.  A string is quoted; every other literal is
written bare, in the one form that it has.
-/

namespace TwinGraph

open scoped Binary64

/-- A scalar value of a query text. -/
inductive Literal where
  | string (value : String)
  | integer (value : Int64)
  | float (value : Binary64)
  | boolean (value : Bool)
  | null
  deriving DecidableEq

namespace Literal

/-- Whether a query text has a form for the literal: it has none for a NaN or an infinity. -/
def isFinite : Literal → Bool
  | float value => value.isFinite
  | _ => true

/-- The decimal numeral of an integer. -/
def renderInteger (value : Int) : List Char :=
  if value < 0 then '-' :: Nat.toDigits 10 value.natAbs else Nat.toDigits 10 value.natAbs

/-- A literal as it stands in a query text. -/
def render : Literal → List Char
  | string value => Text.quote value
  | integer value => renderInteger value.toInt
  | float value => value.render
  | boolean true => "true".toList
  | boolean false => "false".toList
  | null => "null".toList

/-- The text of a literal. -/
def text (literal : Literal) : String :=
  String.ofList literal.render

/-- Equality of literals of one kind; floating-point numbers are equal as values. -/
def same : Literal → Literal → Bool
  | string left, string right => left == right
  | integer left, integer right => left == right
  | float left, float right => left.sameValue right
  | boolean left, boolean right => left == right
  | null, null => true
  | _, _ => false

/-- The literal for a number of a JSON text.  An integer that fits the signed range stays one. -/
def ofNumber : Json.Number → Literal
  | .integer value =>
    if -2 ^ (63 : Nat) ≤ value ∧ value < 2 ^ (63 : Nat) then integer (Int64.ofInt value)
    else float (Binary64.ofInt value)
  | .float value => float value

/-- The literal for a JSON value, which has to be a scalar. -/
def ofJson : Json.Value → Except QueryError Literal
  | .null => .ok null
  | .boolean value => .ok (boolean value)
  | .string value => .ok (string value)
  | .number value => .ok (ofNumber value)
  | .array _ | .object _ => .error (.invalidArgument "value" .notScalar)

theorem render_integer (value : Int64) :
    (integer value).render = renderInteger value.toInt := rfl

theorem render_float (value : Binary64) : (float value).render = value.render := rfl

theorem same_self {literal : Literal} (finite : literal.isFinite = true) :
    literal.same literal = true := by
  cases literal with
  | string value => exact beq_self_eq_true value
  | integer value => exact beq_self_eq_true value
  | float value => exact Binary64.sameValue_self finite
  | boolean value => exact beq_self_eq_true value
  | null => rfl

end Literal
end TwinGraph
