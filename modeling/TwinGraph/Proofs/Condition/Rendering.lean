import TwinGraph.Condition.Text
import TwinGraph.Proofs.Text.Boundary

/-!
# The texts of nodes part by part

Each kind of node as one text after the other, from left to right, with the texts of what stands
below it as parts.  Of the identifier of a model the text shows what stands before its first
semicolon.
-/

namespace TwinGraph

open Text

namespace Condition

section

variable {identifier other : String}

theorem toList_modelName (identifier : String) :
    (modelName identifier).toList = identifier.toList.takeWhile (· != ';') :=
  toList_firstPart ';' identifier

theorem modelName_eq_iff :
    modelName identifier = modelName other ↔
      identifier.toList.takeWhile (· != ';') = other.toList.takeWhile (· != ';') := by
  rw [← toList_modelName, ← toList_modelName, String.toList_inj]

/-- The name of a model ends at the only semicolon of the versioned identifier. -/
theorem versionedModel_eq_iff :
    versionedModel identifier = versionedModel other ↔ modelName identifier = modelName other := by
  constructor
  · intro equal
    have texts := String.ofList_inj.mp equal
    obtain ⟨names, -⟩ := append_cons_inj (separator_notMem_firstPart _ _)
      (separator_notMem_firstPart _ _) texts
    exact String.toList_inj.mp names
  · intro names
    rw [versionedModel, versionedModel, names]

end

theorem render_modelTest_none (identifier : String) :
    render (modelTest none identifier) =
      "IS_OF_MODEL".toList ++ '(' :: (quote (versionedModel identifier) ++ [')']) := by
  simp only [render, renderCall, Option.toList_none, List.map_nil, List.nil_append,
    commaSeparated_singleton]

theorem render_modelTest_some (qualifier identifier : String) :
    render (modelTest (some qualifier) identifier) =
      "IS_OF_MODEL".toList ++ '(' ::
        (qualifier.toList ++ ',' :: ' ' :: (quote (versionedModel identifier) ++ [')'])) := by
  simp only [render, renderCall, Option.toList_some, List.map_cons, List.map_nil,
    List.cons_append, List.nil_append, commaSeparated_cons_cons, commaSeparated_singleton,
    List.append_assoc]

theorem render_scalarTest_unary {qualifier column : String} {function : ScalarFunction}
    {argument : Option String} (unary : function.arity = .unary) :
    render (scalarTest qualifier column function argument) =
      function.token.toList ++ '(' :: (qualify qualifier column ++ [')']) := by
  simp only [render, renderTest, unary, renderCall, commaSeparated_singleton]

theorem render_scalarTest_binary {qualifier column : String} {function : ScalarFunction}
    {argument : Option String} (binary : function.arity = .binary) :
    render (scalarTest qualifier column function argument) =
      function.token.toList ++ '(' ::
        (qualify qualifier column ++ ',' :: ' ' :: (quote (argument.getD "") ++ [')'])) := by
  simp only [render, renderTest, binary, renderCall, commaSeparated_cons_cons,
    commaSeparated_singleton, List.append_assoc, List.cons_append]

theorem render_negation (inner : Condition) :
    render (negation inner) = "NOT".toList ++ ' ' :: inner.render := by
  rw [render]
  rfl

/-- The members of a group after its first one, each after the connective. -/
def renderMore (connective : Connective) (children : List Condition) : List Char :=
  children.flatMap (renderConnective connective ++ ·.render)

theorem render_group_cons (connective : Connective) (first : Condition) (rest : List Condition) :
    render (group connective (first :: rest)) =
      '(' :: (first.render ++ (renderMore connective rest ++ [')'])) := by
  rw [render_group, List.map_cons, intercalate_cons, List.flatMap_map, List.append_assoc]
  rfl

theorem renderMore_cons (connective : Connective) (first : Condition) (rest : List Condition) :
    renderMore connective (first :: rest) =
      renderConnective connective ++ (first.render ++ renderMore connective rest) := by
  rw [renderMore, List.flatMap_cons, List.append_assoc]
  rfl

end Condition
end TwinGraph
