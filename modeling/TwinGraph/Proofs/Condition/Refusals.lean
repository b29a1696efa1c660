import TwinGraph.Proofs.Condition.Calls
import TwinGraph.Proofs.Condition.Equality

/-!
# What the calls on conditions refuse

A call refuses a blank name, a number that is not finite, and a group without members, and nothing
else.  So the conditions that calls build are well formed at every node, and each tree that is well
formed at every node is built by calls.
-/

namespace TwinGraph

open scoped Binary64

theorem requireNonBlank_eq_error_iff {field text : String} {error : QueryError} :
    requireNonBlank field text = .error error ↔
      Text.isBlank text = true ∧ error = .invalidArgument field .blank := by
  cases blank : Text.isBlank text with
  | true => simp [requireNonBlank, blank, eq_comm (a := error)]
  | false => simp [requireNonBlank, blank]

theorem requireNonBlank_bind_eq_error_iff {α : Type} {field text : String} {error : QueryError}
    {next : Except QueryError α} :
    (requireNonBlank field text >>= fun _ => next) = .error error ↔
      Text.isBlank text = true ∧ error = .invalidArgument field .blank ∨
        Text.isBlank text = false ∧ next = .error error := by
  rw [← requireNonBlank_eq_error_iff, ← @requireNonBlank_eq_ok_iff field text ()]
  cases requireNonBlank field text with
  | ok _ => simp [bind, Except.bind]
  | error cause => simp [bind, Except.bind]

/-- A call that looks at one name and then has its result. -/
theorem requireNonBlank_pure_eq_error_iff {α : Type} {field text : String} {error : QueryError}
    {result : α} :
    (requireNonBlank field text >>= fun _ => pure result) = .error error ↔
      Text.isBlank text = true ∧ error = .invalidArgument field .blank := by
  rw [requireNonBlank_bind_eq_error_iff]
  simp [pure, Except.pure]

/-- The literals for which a query text has no form. -/
def Literal.IsNonFinite : Literal → Prop
  | float number => number.isNaN = true ∨ ∃ negative, number = .infinity negative
  | _ => False

theorem Literal.isFinite_eq_false_iff {literal : Literal} :
    literal.isFinite = false ↔ literal.IsNonFinite := by
  cases literal with
  | float number => exact Binary64.isFinite_eq_false_iff
  | string value => simp [isFinite, IsNonFinite]
  | integer value => simp [isFinite, IsNonFinite]
  | boolean value => simp [isFinite, IsNonFinite]
  | null => simp [isFinite, IsNonFinite]

namespace Condition

variable {qualifier column : String} {error : QueryError}

theorem compare_eq_error_iff {operator : ComparisonOperator} {value : Literal} :
    compare qualifier column operator value = .error error ↔
      Text.isBlank column = true ∧ error = .invalidArgument "column" .blank ∨
        Text.isBlank column = false ∧ value.IsNonFinite ∧
          error = .invalidArgument "value" (.noRepresentation value.text) := by
  rw [compare, requireNonBlank_bind_eq_error_iff, ← Literal.isFinite_eq_false_iff]
  cases value.isFinite with
  | true => simp [pure, Except.pure]
  | false => simp [throw, throwThe, MonadExceptOf.throw, eq_comm (a := error)]

theorem isMember_eq_error_iff {kind : MembershipKind} {values : List String} :
    isMember qualifier column kind values = .error error ↔
      Text.isBlank column = true ∧ error = .invalidArgument "column" .blank := by
  rw [isMember, requireNonBlank_pure_eq_error_iff]

theorem isOfModel_eq_error_iff {qualifier : Option String} {identifier : String} :
    isOfModel qualifier identifier = .error error ↔
      Text.isBlank (modelName identifier) = true ∧ error = .invalidArgument "model" .blank := by
  rw [isOfModel, requireNonBlank_pure_eq_error_iff]

theorem test_eq_error_iff {function : ScalarFunction} {argument : Option String} :
    test qualifier column function argument = .error error ↔
      Text.isBlank column = true ∧ error = .invalidArgument "column" .blank := by
  rw [test, requireNonBlank_pure_eq_error_iff]

theorem groupOf_eq_error_iff {connective : Connective} {children : List Condition} :
    groupOf connective children = .error error ↔
      children = [] ∧ error = .invalidArgument "conditions" (.emptyGroup connective) := by
  cases children with
  | nil => simp [groupOf, eq_comm (a := error)]
  | cons first rest => simp [groupOf]

/-- The conditions that calls build are the trees of admissible nodes, and each is equal to itself.
Negating, joining and grouping conditions always gives one of them, and every other call is refused
just for a blank name, for a number that is not finite, or for the want of a member. -/
theorem built_and_refused :
    (∀ condition, (Built condition ↔ condition.Everywhere Admissible) ∧
      (Built condition → condition.same condition = true)) ∧
    (∀ qualifier column operator value error,
      compare qualifier column operator value = .error error ↔
        Text.isBlank column = true ∧ error = .invalidArgument "column" .blank ∨
          Text.isBlank column = false ∧ value.IsNonFinite ∧
            error = .invalidArgument "value" (.noRepresentation value.text)) ∧
    (∀ qualifier column kind values error,
      isMember qualifier column kind values = .error error ↔
        Text.isBlank column = true ∧ error = .invalidArgument "column" .blank) ∧
    (∀ qualifier column function argument error,
      test qualifier column function argument = .error error ↔
        Text.isBlank column = true ∧ error = .invalidArgument "column" .blank) ∧
    (∀ qualifier identifier error,
      isOfModel qualifier identifier = .error error ↔
        Text.isBlank (modelName identifier) = true ∧ error = .invalidArgument "model" .blank) ∧
    (∀ connective children error,
      groupOf connective children = .error error ↔
        children = [] ∧ error = .invalidArgument "conditions" (.emptyGroup connective)) ∧
    all = groupOf .conjunction ∧ any = groupOf .disjunction ∧
    (∀ condition, Built condition → Built condition.negate) ∧
    (∀ left right, Built left → Built right → Built (left.both right) ∧ Built (left.either right)) ∧
    ∀ connective first rest, Built first → (∀ condition ∈ rest, Built condition) →
      Built (grouped connective first rest) :=
  ⟨fun _ => ⟨built_iff, fun built => same_self built.admissible⟩,
    fun _ _ _ _ _ => compare_eq_error_iff, fun _ _ _ _ _ => isMember_eq_error_iff,
    fun _ _ _ _ _ => test_eq_error_iff, fun _ _ _ => isOfModel_eq_error_iff,
    fun _ _ _ => groupOf_eq_error_iff, rfl, rfl, fun _ => .negate,
    fun _ _ left right => ⟨left.both right, left.either right⟩, fun _ _ _ => .grouped⟩

/-- A negated group of a test of some model and of a comparison with a negative zero, and calls that
are refused for the first of two reasons and for the only one. -/
theorem built_and_refused_below_negation :
    let condition : Condition := .negation (.group .disjunction [.modelTest none "dtmi:room;2",
      .comparison "twin" "x" .lessThan (.float (.zero true))])
    let nan : Literal := .float (.ofMagnitude false (2047 * 2 ^ (52 : Nat) + 1))
    Built condition ∧ condition.Everywhere Admissible ∧ condition.same condition = true ∧
      compare "twin" " " .equal nan = .error (.invalidArgument "column" .blank) ∧
      compare "twin" "x" .equal nan = .error (.invalidArgument "value" (.noRepresentation "NaN")) ∧
      isOfModel (some "twin") " ;1" = .error (.invalidArgument "model" .blank) ∧
      Built (condition.both condition) := by
  intro condition nan
  obtain ⟨trees, comparing, -, -, modelTesting, -, -, -, -, joining, -⟩ := built_and_refused
  have tested : Built (.modelTest none "dtmi:room;2") :=
    .isOfModel (isOfModel_eq_ok_iff.mpr ⟨by decide +kernel, rfl⟩ :
      isOfModel (some "") "dtmi:room;2" = _)
  have compared : Built (.comparison "twin" "x" .lessThan (.float (.zero true))) :=
    .compare (compare_eq_ok_iff.mpr ⟨by decide +kernel, rfl, rfl⟩)
  have built : Built condition := .negate (.grouped tested (by simpa using compared))
  have blank : Text.isBlank " " = true := by decide +kernel
  have unnamed : Text.isBlank (modelName " ;1") = true := by decide +kernel
  have nonFinite : nan.IsNonFinite := .inl rfl
  refine ⟨built, (trees condition).1.mp built, (trees condition).2 built,
    (comparing _ _ _ _ _).mpr (.inl ⟨blank, rfl⟩), (comparing _ _ _ _ _).mpr (.inr ?_),
    (modelTesting _ _ _).mpr ⟨unnamed, rfl⟩, (joining _ _ built built).1⟩
  have text : nan.text = "NaN" := by decide +kernel
  exact ⟨by decide +kernel, nonFinite, by rw [text]⟩

end Condition
end TwinGraph
