import TwinGraph.Condition.Basic
import Mathlib.Data.List.Forall2

/-!
# The nodes of a condition

What is asked of a whole condition mostly is asked of each of its nodes, whatever stands above
them.  A condition that calls build is well formed in this sense, and so are the names that it
uses.  Relations between trees go through the children one by one, and what is known of each child
and all that it is related to holds of the lists of children as a whole.
-/

namespace TwinGraph
namespace Condition

mutual

/-- The nodes of a condition from left to right, each with what stands below it. -/
def nodes : Condition → List Condition
  | comparison qualifier column operator value => [comparison qualifier column operator value]
  | membership qualifier column kind values => [membership qualifier column kind values]
  | modelTest qualifier identifier => [modelTest qualifier identifier]
  | scalarTest qualifier column function argument => [scalarTest qualifier column function argument]
  | negation inner => negation inner :: nodes inner
  | group connective children => group connective children :: nodesOfEach children

/-- The nodes of conditions, one condition after the other. -/
def nodesOfEach : List Condition → List Condition
  | [] => []
  | first :: rest => nodes first ++ nodesOfEach rest

end

/-- What holds of every node of a condition. -/
def Everywhere (holds : Condition → Prop) (condition : Condition) : Prop :=
  ∀ node ∈ condition.nodes, holds node

theorem nodesOfEach_eq (conditions : List Condition) :
    nodesOfEach conditions = conditions.flatMap nodes := by
  induction conditions with
  | nil => rfl
  | cons first rest induction => simp [nodesOfEach, induction]

theorem self_mem_nodes (condition : Condition) : condition ∈ condition.nodes := by
  cases condition <;> simp [nodes]

section

variable {holds : Condition → Prop}

theorem Everywhere.self {condition : Condition} (everywhere : Everywhere holds condition) :
    holds condition :=
  everywhere condition (self_mem_nodes condition)

@[simp]
theorem everywhere_comparison {qualifier column : String} {operator : ComparisonOperator}
    {value : Literal} :
    Everywhere holds (comparison qualifier column operator value) ↔
      holds (comparison qualifier column operator value) := by
  simp [Everywhere, nodes]

@[simp]
theorem everywhere_membership {qualifier column : String} {kind : MembershipKind}
    {values : List String} :
    Everywhere holds (membership qualifier column kind values) ↔
      holds (membership qualifier column kind values) := by
  simp [Everywhere, nodes]

@[simp]
theorem everywhere_modelTest {qualifier : Option String} {identifier : String} :
    Everywhere holds (modelTest qualifier identifier) ↔ holds (modelTest qualifier identifier) := by
  simp [Everywhere, nodes]

@[simp]
theorem everywhere_scalarTest {qualifier column : String} {function : ScalarFunction}
    {argument : Option String} :
    Everywhere holds (scalarTest qualifier column function argument) ↔
      holds (scalarTest qualifier column function argument) := by
  simp [Everywhere, nodes]

@[simp]
theorem everywhere_negation {inner : Condition} :
    Everywhere holds (negation inner) ↔ holds (negation inner) ∧ Everywhere holds inner := by
  simp [Everywhere, nodes]

@[simp]
theorem everywhere_group {connective : Connective} {children : List Condition} :
    Everywhere holds (group connective children) ↔
      holds (group connective children) ∧ ∀ child ∈ children, Everywhere holds child := by
  simp only [Everywhere, nodes, nodesOfEach_eq, List.forall_mem_cons, List.mem_flatMap]
  constructor
  · rintro ⟨here, below⟩
    exact ⟨here, fun child member node inside => below node ⟨child, member, inside⟩⟩
  · rintro ⟨here, below⟩
    exact ⟨here, fun node ⟨child, member, inside⟩ => below child member node inside⟩

instance [DecidablePred holds] : DecidablePred (Everywhere holds) :=
  fun condition => inferInstanceAs (Decidable (∀ node ∈ condition.nodes, holds node))

end

/-- The qualifier that a node writes, if it writes one; it may be empty. -/
def qualifier? : Condition → Option String
  | comparison qualifier _ _ _ | membership qualifier _ _ _ | scalarTest qualifier _ _ _ =>
    some qualifier
  | modelTest qualifier _ => qualifier
  | negation _ | group _ _ => none

/-- The column that a node writes, if it writes one. -/
def column? : Condition → Option String
  | comparison _ column _ _ | membership _ column _ _ | scalarTest _ column _ _ => some column
  | modelTest _ _ | negation _ | group _ _ => none

/-- Whether the qualifiers of a condition are of one kind and its columns of another. -/
def Named (qualifierKind columnKind : String → Prop) : Condition → Prop :=
  Everywhere fun node =>
    (∀ qualifier ∈ node.qualifier?, qualifierKind qualifier) ∧
      ∀ column ∈ node.column?, columnKind column

instance {qualifierKind columnKind : String → Prop} [DecidablePred qualifierKind]
    [DecidablePred columnKind] : DecidablePred (Named qualifierKind columnKind) :=
  fun condition => inferInstanceAs (Decidable (Everywhere _ condition))

/-- What the calls on conditions look after at a single node. -/
def Admissible : Condition → Prop
  | comparison _ column _ value => Text.isBlank column = false ∧ value.isFinite = true
  | membership _ column _ _ => Text.isBlank column = false
  | modelTest qualifier identifier =>
    qualifier ≠ some "" ∧ Text.isBlank (modelName identifier) = false
  | scalarTest _ column _ _ => Text.isBlank column = false
  | negation _ => True
  | group _ children => children ≠ []

instance : DecidablePred Admissible
  | comparison .. => inferInstanceAs (Decidable (_ ∧ _))
  | membership .. => inferInstanceAs (Decidable (_ = _))
  | modelTest .. => inferInstanceAs (Decidable (_ ∧ _))
  | scalarTest .. => inferInstanceAs (Decidable (_ = _))
  | negation _ => inferInstanceAs (Decidable True)
  | group _ [] => isFalse fun nonempty => nonempty rfl
  | group _ (_ :: _) => isTrue nofun

section

variable {relation : Condition → Condition → Prop} {children others : List Condition}

theorem map_eq_of_forall₂ {α : Type} {view : Condition → α}
    (each : ∀ child ∈ children, ∀ {other}, relation child other → view child = view other)
    (related : List.Forall₂ relation children others) : children.map view = others.map view := by
  induction related with
  | nil => rfl
  | cons first _ induction =>
    rw [List.forall_mem_cons] at each
    rw [List.map_cons, List.map_cons, each.1 first, induction each.2]

theorem forall_of_forall₂ {holds : Condition → Prop}
    (each : ∀ child ∈ children, ∀ {other}, relation child other → holds child → holds other)
    (related : List.Forall₂ relation children others) (all : ∀ child ∈ children, holds child) :
    ∀ other ∈ others, holds other := by
  induction related with
  | nil => exact all
  | cons first _ induction =>
    rw [List.forall_mem_cons] at each all ⊢
    exact ⟨each.1 first all.1, induction each.2 all.2⟩

theorem forall₂_of_forall₂ {holds : Condition → Condition → Prop}
    (each : ∀ child ∈ children, ∀ {other}, relation child other → holds child other)
    (related : List.Forall₂ relation children others) : List.Forall₂ holds children others := by
  induction related with
  | nil => exact .nil
  | cons first _ induction =>
    rw [List.forall_mem_cons] at each
    exact .cons (each.1 first) (induction each.2)

end

end Condition
end TwinGraph
