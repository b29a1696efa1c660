import Mathlib.Data.List.Basic
import TwinGraph.Proofs.Condition.Nodes
import TwinGraph.Proofs.Condition.Rendering
import TwinGraph.Alias

/-!
# The leaves of a condition in its text

The text of a condition is a row of leaves and of what joins them: parentheses, connectives and the
word of a negation.  The aliases that a condition refers to are those of its leaves, in the order in
which the leaves stand in the text.
-/

namespace TwinGraph

open Text

/-- A stretch of the text of a condition. -/
inductive Stretch where
  /-- What joins leaves, by its text. -/
  | joint (text : List Char)
  /-- A condition that is neither a negation nor a group. -/
  | leaf (condition : Condition)

namespace Stretch

/-- A stretch as it stands in the text. -/
def render : Stretch → List Char
  | joint text => text
  | leaf condition => condition.render

/-- The alias that a leaf refers to, if it refers to one. -/
def alias? : Stretch → Option String
  | joint _ => none
  | leaf condition => condition.qualifier?.filter (· != "")

theorem alias?_leaf_eq_some_iff {condition : Condition} {name : String} :
    (leaf condition).alias? = some name ↔ condition.qualifier? = some name ∧ name ≠ "" := by
  simp [alias?, Option.filter_eq_some_iff]

end Stretch

namespace Condition

mutual

/-- The stretches of the text of a condition from left to right. -/
def stretches : Condition → List Stretch
  | comparison qualifier column operator value =>
    [.leaf (comparison qualifier column operator value)]
  | membership qualifier column kind values => [.leaf (membership qualifier column kind values)]
  | modelTest qualifier identifier => [.leaf (modelTest qualifier identifier)]
  | scalarTest qualifier column function argument =>
    [.leaf (scalarTest qualifier column function argument)]
  | negation inner => .joint "NOT ".toList :: stretches inner
  | group connective children =>
    .joint ['('] ::
      ([.joint (renderConnective connective)].intercalate (stretchesOfEach children) ++
        [.joint [')']])

/-- The stretches of the texts of conditions, each on its own. -/
def stretchesOfEach : List Condition → List (List Stretch)
  | [] => []
  | first :: rest => stretches first :: stretchesOfEach rest

end

theorem stretchesOfEach_eq (conditions : List Condition) :
    stretchesOfEach conditions = conditions.map stretches := by
  induction conditions with
  | nil => rfl
  | cons first rest induction => simp [stretchesOfEach, induction]

/-- The stretches of a group with a first member. -/
theorem stretches_group_cons (connective : Connective) (first : Condition)
    (rest : List Condition) : stretches (group connective (first :: rest)) =
      .joint ['('] :: (first.stretches ++
        (rest.flatMap (.joint (renderConnective connective) :: ·.stretches) ++
          [.joint [')']])) := by
  rw [stretches, stretchesOfEach_eq, List.map_cons, intercalate_cons, List.flatMap_map,
    List.append_assoc]
  rfl

/-- The stretches in a row are the text. -/
theorem flatMap_render_stretches (condition : Condition) :
    condition.stretches.flatMap Stretch.render = condition.render := by
  induction condition using induction_on with
  | comparison qualifier column operator value => exact List.append_nil _
  | membership qualifier column kind values => exact List.append_nil _
  | modelTest qualifier identifier => exact List.append_nil _
  | scalarTest qualifier column function argument => exact List.append_nil _
  | negation inner induction =>
    rw [stretches, List.flatMap_cons, induction, render]
    rfl
  | group connective children induction =>
    cases children with
    | nil => rfl
    | cons first rest =>
      rw [List.forall_mem_cons] at induction
      have more : (rest.flatMap (.joint (renderConnective connective) :: ·.stretches)).flatMap
          Stretch.render = renderMore connective rest := by
        rw [List.flatMap_assoc]
        exact List.flatMap_congr fun child member => by
          rw [List.flatMap_cons, induction.2 child member]
          rfl
      rw [stretches_group_cons, render_group_cons, List.flatMap_cons, List.flatMap_append,
        List.flatMap_append, induction.1, more]
      rfl

theorem filterMap_alias?_leaf (condition : Condition) :
    [Stretch.leaf condition].filterMap Stretch.alias? =
      condition.qualifier?.toList.filter (· != "") := by
  rw [← Option.toList_filter]
  rfl

/-- The aliases of a condition are those of its leaves from left to right. -/
theorem filterMap_alias?_stretches (condition : Condition) :
    condition.stretches.filterMap Stretch.alias? = condition.aliases := by
  induction condition using induction_on with
  | comparison qualifier column operator value => exact filterMap_alias?_leaf _
  | membership qualifier column kind values => exact filterMap_alias?_leaf _
  | modelTest qualifier identifier => exact filterMap_alias?_leaf _
  | scalarTest qualifier column function argument => exact filterMap_alias?_leaf _
  | negation inner induction => exact induction
  | group connective children induction =>
    cases children with
    | nil => rfl
    | cons first rest =>
      rw [List.forall_mem_cons] at induction
      have more : (rest.flatMap (.joint (renderConnective connective) :: ·.stretches)).filterMap
          Stretch.alias? = rest.flatMap aliases := by
        rw [List.filterMap_flatMap]
        exact List.flatMap_congr fun child member => induction.2 child member
      have closing : [Stretch.joint [')']].filterMap Stretch.alias? = [] := rfl
      rw [stretches_group_cons, aliases_group, List.filterMap_cons_none rfl, List.filterMap_append,
        List.filterMap_append, induction.1, more, closing, List.append_nil, List.flatMap_cons]

/-- Whether a leaf refers to no alias outside of a scope: it has no alias, an empty one or one of
the scope. -/
def Within (leaf : Condition) (scope : Scope) : Prop :=
  ∀ name ∈ leaf.qualifier?, name = "" ∨ name ∈ scope.aliases

theorem within_iff {leaf : Condition} {scope : Scope} :
    leaf.Within scope ↔ ∀ name, (Stretch.leaf leaf).alias? = some name → name ∈ scope.aliases := by
  simp only [Stretch.alias?_leaf_eq_some_iff, Within, Option.mem_def, or_iff_not_imp_left, and_imp]

/-- The aliases of some stretches are in scope if each leaf is within it. -/
theorem forall_mem_filterMap_alias?_iff {stretches : List Stretch} {scope : Scope} :
    (∀ name ∈ stretches.filterMap Stretch.alias?, name ∈ scope.aliases) ↔
      ∀ leaf, .leaf leaf ∈ stretches → leaf.Within scope := by
  simp only [within_iff, List.mem_filterMap]
  constructor
  · exact fun known leaf member name referred => known name ⟨_, member, referred⟩
  · rintro within name ⟨stretch, member, referred⟩
    cases stretch with
    | joint text => cases referred
    | leaf leaf => exact within leaf member name referred

end Condition
end TwinGraph
