import TwinGraph.Proofs.Condition.Nodes

/-!
# What the calls on conditions accept

For each call the exact condition under which it gives a condition, and from these what every node
of a condition has that calls build.
-/

namespace TwinGraph

theorem requireNonBlank_eq_ok_iff {field text : String} {result : Unit} :
    requireNonBlank field text = .ok result ↔ Text.isBlank text = false := by
  unfold requireNonBlank
  split <;> simp_all

theorem requireNonBlank_bind_eq_ok_iff {α : Type} {field text : String} {result : α}
    {next : Except QueryError α} :
    (requireNonBlank field text >>= fun _ => next) = .ok result ↔
      Text.isBlank text = false ∧ next = .ok result := by
  rw [← @requireNonBlank_eq_ok_iff field text ()]
  cases requireNonBlank field text with
  | ok _ => simp [bind, Except.bind]
  | error error => simp [bind, Except.bind]

namespace Condition

variable {condition : Condition} {qualifier column : String}

theorem compare_eq_ok_iff {operator : ComparisonOperator} {value : Literal} :
    compare qualifier column operator value = .ok condition ↔
      Text.isBlank column = false ∧ value.isFinite = true ∧
        condition = comparison qualifier column operator value := by
  rw [compare, requireNonBlank_bind_eq_ok_iff]
  cases value.isFinite with
  | true => simp [pure, Except.pure, eq_comm (a := condition)]
  | false => simp [throw, throwThe, MonadExceptOf.throw]

theorem isMember_eq_ok_iff {kind : MembershipKind} {values : List String} :
    isMember qualifier column kind values = .ok condition ↔
      Text.isBlank column = false ∧ condition = membership qualifier column kind values := by
  rw [isMember, requireNonBlank_bind_eq_ok_iff]
  simp [pure, Except.pure, eq_comm (a := condition)]

theorem isOfModel_eq_ok_iff {qualifier : Option String} {identifier : String} :
    isOfModel qualifier identifier = .ok condition ↔
      Text.isBlank (modelName identifier) = false ∧
        condition = modelTest (qualifier.filter (· != "")) identifier := by
  rw [isOfModel, requireNonBlank_bind_eq_ok_iff]
  simp [pure, Except.pure, eq_comm (a := condition)]

theorem test_eq_ok_iff {function : ScalarFunction} {argument : Option String} :
    test qualifier column function argument = .ok condition ↔
      Text.isBlank column = false ∧
        condition = scalarTest qualifier column function argument := by
  rw [test, requireNonBlank_bind_eq_ok_iff]
  simp [pure, Except.pure, eq_comm (a := condition)]

theorem groupOf_eq_ok_iff {connective : Connective} {children : List Condition} :
    groupOf connective children = .ok condition ↔
      children ≠ [] ∧ condition = group connective children := by
  cases children with
  | nil => simp [groupOf]
  | cons first rest => simp [groupOf, grouped, eq_comm (a := condition)]

theorem Built.admissible (built : Built condition) : condition.Everywhere Admissible := by
  induction built with
  | compare made =>
    obtain ⟨named, finite, rfl⟩ := compare_eq_ok_iff.mp made
    simp [Admissible, named, finite]
  | isMember made =>
    obtain ⟨named, rfl⟩ := isMember_eq_ok_iff.mp made
    simp [Admissible, named]
  | isOfModel made =>
    obtain ⟨named, rfl⟩ := isOfModel_eq_ok_iff.mp made
    simp [Admissible, named, Option.filter_eq_some_iff]
  | test made =>
    obtain ⟨named, rfl⟩ := test_eq_ok_iff.mp made
    simp [Admissible, named]
  | negate _ induction => simp [Condition.negate, Admissible, induction]
  | grouped _ _ head tail => simpa [Condition.grouped, Admissible] using ⟨head, tail⟩
  | groupOf _ made each =>
    obtain ⟨nonempty, rfl⟩ := groupOf_eq_ok_iff.mp made
    simpa [Admissible, nonempty] using each

theorem Built.of_admissible {condition : Condition} (admissible : condition.Everywhere Admissible) :
    Built condition := by
  induction condition using induction_on with
  | comparison qualifier column operator value =>
    obtain ⟨named, finite⟩ := everywhere_comparison.mp admissible
    exact .compare (compare_eq_ok_iff.mpr ⟨named, finite, rfl⟩)
  | membership qualifier column kind values =>
    exact .isMember (isMember_eq_ok_iff.mpr ⟨everywhere_membership.mp admissible, rfl⟩)
  | modelTest qualifier identifier =>
    obtain ⟨nonempty, named⟩ := everywhere_modelTest.mp admissible
    have kept : qualifier.filter (· != "") = qualifier := by
      cases qualifier with
      | none => rfl
      | some qualifier => simpa using nonempty
    exact .isOfModel (isOfModel_eq_ok_iff.mpr ⟨named, by rw [kept]⟩)
  | scalarTest qualifier column function argument =>
    exact .test (test_eq_ok_iff.mpr ⟨everywhere_scalarTest.mp admissible, rfl⟩)
  | negation inner induction =>
    exact .negate (induction (everywhere_negation.mp admissible).2)
  | group connective children induction =>
    obtain ⟨nonempty, each⟩ := everywhere_group.mp admissible
    exact .groupOf (fun child member => induction child member (each child member))
      (groupOf_eq_ok_iff.mpr ⟨nonempty, rfl⟩)

/-- Being built by calls is a matter of the single nodes. -/
theorem built_iff {condition : Condition} : Built condition ↔ condition.Everywhere Admissible :=
  ⟨Built.admissible, Built.of_admissible⟩

end Condition
end TwinGraph
