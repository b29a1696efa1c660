import TwinGraph.Condition.Basic
import TwinGraph.Session

/-!
# Which calls name an unknown alias

An error names an alias outside of the scope only where an alias is looked for in a scope.  No call
that checks a text, introduces an alias, takes a configuration or builds a condition fails so.
-/

namespace TwinGraph

/-- Whether an error names an alias that is not in scope. -/
def QueryError.isUnknownAlias : QueryError → Bool
  | unknownAlias _ _ => true
  | _ => false

/-- Whether a failure names an alias that is not in scope. -/
def Failure.isUnknownAlias : Failure → Bool
  | refused error => error.isUnknownAlias
  | _ => false

/-- What holds of all errors of two calls holds of the errors of both in sequence. -/
theorem forall_error_of_bind {ε α β : Type} {call : Except ε α} {next : α → Except ε β}
    {holds : ε → Prop} (first : ∀ error, call = .error error → holds error)
    (second : ∀ result error, next result = .error error → holds error) :
    ∀ error, (call >>= next) = .error error → holds error := by
  intro error refused
  cases outcome : call with
  | error cause =>
    rw [outcome] at refused
    cases refused
    exact first error outcome
  | ok result =>
    rw [outcome] at refused
    exact second result error refused

variable {field text : String} {error : QueryError}

theorem isUnknownAlias_of_requireNonBlank (refused : requireNonBlank field text = .error error) :
    error.isUnknownAlias = false := by
  unfold requireNonBlank at refused
  split at refused <;> cases refused
  rfl

theorem isUnknownAlias_of_validateAlias (refused : validateAlias field text = .error error) :
    error.isUnknownAlias = false := by
  unfold validateAlias at refused
  split at refused
  · cases refused
    rfl
  split at refused
  · cases refused
    rfl
  split at refused <;> cases refused
  rfl

namespace Scope

variable {scope : Scope}

theorem isUnknownAlias_of_introduce (refused : scope.introduce field text = .error error) :
    error.isUnknownAlias = false := by
  refine forall_error_of_bind (fun _ => isUnknownAlias_of_validateAlias) (fun _ => ?_) error refused
  intro error refused
  split at refused <;> cases refused
  rfl

theorem isUnknownAlias_of_introduceOptional {name? : Option String}
    (refused : scope.introduceOptional field name? = .error error) :
    error.isUnknownAlias = false := by
  cases name? with
  | none => cases refused
  | some name => exact isUnknownAlias_of_introduce refused

end Scope

/-- Why a condition cannot be built: a name is unknown, or a call on literals or conditions refuses
its arguments. -/
inductive Condition.Unbuilt : Failure → Prop where
  | unknownName : Unbuilt .unknownName
  | literal {value : Json.Value} {error : QueryError}
    (refused : Literal.ofJson value = .error error) : Unbuilt (.refused error)
  | compare {qualifier column : String} {operator : ComparisonOperator} {value : Literal}
    {error : QueryError}
    (refused : Condition.compare qualifier column operator value = .error error) :
    Unbuilt (.refused error)
  | isMember {qualifier column : String} {kind : MembershipKind} {values : List String}
    {error : QueryError}
    (refused : Condition.isMember qualifier column kind values = .error error) :
    Unbuilt (.refused error)
  | isOfModel {qualifier : Option String} {identifier : String} {error : QueryError}
    (refused : Condition.isOfModel qualifier identifier = .error error) : Unbuilt (.refused error)
  | test {qualifier column : String} {function : ScalarFunction} {argument : Option String}
    {error : QueryError}
    (refused : Condition.test qualifier column function argument = .error error) :
    Unbuilt (.refused error)
  | groupOf {connective : Connective} {conditions : List Condition} {error : QueryError}
    (refused : Condition.groupOf connective conditions = .error error) : Unbuilt (.refused error)

theorem Condition.Unbuilt.isUnknownAlias {failure : Failure} (unbuilt : Unbuilt failure) :
    failure.isUnknownAlias = false := by
  have passes {error : QueryError} {condition : Condition}
      (made : (pure condition : Except QueryError Condition) = .error error) :
      error.isUnknownAlias = false := by
    cases made
  cases unbuilt with
  | unknownName => rfl
  | @literal value error refused =>
    unfold Literal.ofJson at refused
    split at refused <;> cases refused <;> rfl
  | @compare qualifier column operator value error refused =>
    refine forall_error_of_bind (fun _ => isUnknownAlias_of_requireNonBlank) (fun _ => ?_) _ refused
    intro error refused
    split at refused <;> cases refused
    rfl
  | isMember refused =>
    exact forall_error_of_bind (fun _ => isUnknownAlias_of_requireNonBlank) (fun _ _ => passes) _
      refused
  | isOfModel refused =>
    exact forall_error_of_bind (fun _ => isUnknownAlias_of_requireNonBlank) (fun _ _ => passes) _
      refused
  | test refused =>
    exact forall_error_of_bind (fun _ => isUnknownAlias_of_requireNonBlank) (fun _ _ => passes) _
      refused
  | @groupOf connective conditions error refused =>
    cases conditions with
    | nil =>
      cases refused
      rfl
    | cons first rest => cases refused

namespace Configuration

variable {configuration : Configuration} {read : String → Option Toml.Entries} {document : String}
  {error : QueryError}

theorem isUnknownAlias_asFault (error : QueryError) :
    (asFault error).isUnknownAlias = error.isUnknownAlias := by
  cases error <;> rfl

theorem isUnknownAlias_of_mapError {field text : String}
    (refused : (validateAlias field text).mapError asFault = .error error) :
    error.isUnknownAlias = false := by
  cases validated : validateAlias field text with
  | ok _ =>
    rw [validated] at refused
    cases refused
  | error invalid =>
    rw [validated] at refused
    cases refused
    exact (isUnknownAlias_asFault invalid).trans (isUnknownAlias_of_validateAlias validated)

theorem isUnknownAlias_of_validate (refused : configuration.validate = .error error) :
    error.isUnknownAlias = false :=
  forall_error_of_bind (fun _ => isUnknownAlias_of_mapError) (fun _ _ => isUnknownAlias_of_mapError)
    error refused

theorem isUnknownAlias_of_parse (refused : parse read document = .error error) :
    error.isUnknownAlias = false := by
  unfold parse at refused
  split at refused
  · cases refused
    rfl
  · split at refused <;> cases refused
    rfl

theorem isUnknownAlias_of_ofDocument (refused : ofDocument read document = .error error) :
    error.isUnknownAlias = false := by
  refine forall_error_of_bind (fun _ => isUnknownAlias_of_parse) (fun _ => ?_) error refused
  exact forall_error_of_bind (fun _ => isUnknownAlias_of_validate) fun _ _ => nofun

theorem isUnknownAlias_of_ofConfiguration
    (refused : Builder.ofConfiguration configuration = .error error) :
    error.isUnknownAlias = false :=
  forall_error_of_bind (fun _ => isUnknownAlias_of_validate) (fun _ _ made => by cases made) error
    refused

end Configuration

end TwinGraph
