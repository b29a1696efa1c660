import Mathlib.Data.List.Induction
import TwinGraph.Proofs.Query.Calls
import TwinGraph.Session

/-!
# Runs of calls

A query that has just begun takes calls in order.  A call is made only if the query offers it at
its stage, and a run ends with the first call that is not offered or that is refused.  A call
changes a query in a way that depends on its arguments alone once these have passed its checks.  So
a run succeeds if each call is offered and admitted where it is made, and the queries that calls
reach are those that the runs of a query that just began end with.
-/

namespace TwinGraph
namespace Query

/-- A query on a collection to which no call has been added. -/
inductive Begins (collection : Collection) : Query → Prop where
  | start {builder : Builder} {query : Query} (configured : builder.Configured)
      (made : (builder.start collection).outcome = .ok query) : Begins collection query
  | startAs {builder : Builder} {root : String} {query : Query} (configured : builder.Configured)
      (made : (builder.startAs collection root).outcome = .ok query) : Begins collection query

/-- The query after a call, which it has to offer. -/
def attempt (query : Query) (call : Call) : Except Failure Query :=
  if query.offers call.kind then (query.perform call).outcome.mapError .refused
  else .error .notAvailable

/-- The query after some calls, each of them made on what the one before it gave. -/
def run (query : Query) : List Call → Except Failure Query
  | [] => .ok query
  | call :: rest => do
    let next ← query.attempt call
    next.run rest

variable {query before after : Query} {call : Call} {calls left right : List Call}

/-- Whether the arguments of a call pass its checks. -/
def Admits (query : Query) : Call → Prop
  | .join join => Text.isBlank join.relationship = false ∧ join.source ∈ query.scope.aliases ∧
      (∀ name ∈ join.introduced, IsAlias name ∧ name ∉ query.scope.aliases) ∧
      join.introduced.Nodup
  | .filter condition => ∀ name ∈ condition.aliases, name ∈ query.scope.aliases
  | .select entries => query.Projects (query.chosen entries).entries
  | .top _ => True
  | .count => True

/-- The query with what an admitted call adds to it. -/
def extended (query : Query) : Call → Query
  | .join join => { query with
      scope := ⟨query.scope.aliases ++ join.introduced⟩, joins := query.joins ++ [join] }
  | .filter condition => { query with condition := some condition, stage := .filtered }
  | .select entries => { query with
      projection := .select (query.chosen entries), stage := .selected }
  | .top limit => query.capped limit
  | .count => { query with projection := .count, stage := .counted }

/-- Whether the arguments of all calls pass, each where the calls before it lead to. -/
def AdmitsAll (query : Query) : List Call → Prop
  | [] => True
  | call :: rest => query.Admits call ∧ (query.extended call).AdmitsAll rest

theorem outcome_perform_eq_ok_iff :
    (before.perform call).outcome = .ok after ↔
      before.Admits call ∧ after = before.extended call := by
  cases call with
  | join join => exact outcome_join_eq_ok_iff.trans (by simp [Admits, extended, and_assoc])
  | filter condition => exact outcome_filter_eq_ok_iff
  | select entries => exact outcome_select_eq_ok_iff
  | top limit =>
    have made : (before.perform (.top limit)).outcome = .ok (before.capped limit) :=
      outcome_top before limit
    simp [made, Admits, extended, eq_comm (a := after)]
  | count =>
    have made := outcome_count before
    simp [perform, made, Admits, extended, eq_comm (a := after)]

theorem attempt_eq_ok_iff :
    before.attempt call = .ok after ↔
      before.offers call.kind = true ∧ before.Admits call ∧ after = before.extended call := by
  rw [← outcome_perform_eq_ok_iff]
  unfold attempt
  cases before.offers call.kind with
  | true => simp [mapError_eq_ok_iff]
  | false => simp

theorem exists_attempt_eq_ok_iff (offered : query.offers call.kind = true) :
    (∃ after, query.attempt call = .ok after) ↔ query.Admits call := by
  simp only [attempt_eq_ok_iff, offered, true_and, exists_and_left, exists_eq, and_true]

theorem attempt_of_refused {error : QueryError} (offered : query.offers call.kind = true)
    (refused : (query.perform call).outcome = .error error) :
    query.attempt call = .error (.refused error) := by
  rw [attempt, if_pos offered, refused]
  rfl

theorem mapError_refused_ne_notAvailable (outcome : Except QueryError Query) :
    outcome.mapError Failure.refused ≠ .error .notAvailable := by
  cases outcome with
  | ok query => exact nofun
  | error error =>
    have mapped : (Except.error error : Except QueryError Query).mapError Failure.refused =
      .error (.refused error) := rfl
    simp [mapped]

theorem attempt_eq_notAvailable_iff :
    query.attempt call = .error .notAvailable ↔ query.offers call.kind = false := by
  unfold attempt
  cases query.offers call.kind with
  | true => simpa using mapError_refused_ne_notAvailable _
  | false => simp

@[simp]
theorem run_nil (query : Query) : query.run [] = .ok query := rfl

theorem run_cons_of_ok (first : before.attempt call = .ok after) (calls : List Call) :
    before.run (call :: calls) = after.run calls := by
  have unfolded : before.run (call :: calls) = (before.attempt call).bind (·.run calls) := rfl
  rw [unfolded, first]
  rfl

theorem run_cons_of_error {failure : Failure} (first : before.attempt call = .error failure)
    (calls : List Call) : before.run (call :: calls) = .error failure := by
  have unfolded : before.run (call :: calls) = (before.attempt call).bind (·.run calls) := rfl
  rw [unfolded, first]
  rfl

theorem run_cons_eq_ok_iff :
    before.run (call :: calls) = .ok after ↔
      before.offers call.kind = true ∧ before.Admits call ∧
        (before.extended call).run calls = .ok after := by
  constructor
  · intro made
    cases first : before.attempt call with
    | error failure =>
      rw [run_cons_of_error first] at made
      cases made
    | ok middle =>
      obtain ⟨offered, admitted, rfl⟩ := attempt_eq_ok_iff.mp first
      exact ⟨offered, admitted, (run_cons_of_ok first calls).symm.trans made⟩
  · rintro ⟨offered, admitted, made⟩
    have first : before.attempt call = .ok (before.extended call) :=
      attempt_eq_ok_iff.mpr ⟨offered, admitted, rfl⟩
    exact (run_cons_of_ok first calls).trans made

theorem run_append_eq_ok_iff :
    before.run (left ++ right) = .ok after ↔
      ∃ middle, before.run left = .ok middle ∧ middle.run right = .ok after := by
  induction left generalizing before with
  | nil => simp
  | cons call left induction =>
    simp only [List.cons_append, run_cons_eq_ok_iff, induction]
    constructor
    · rintro ⟨offered, admitted, middle, first, second⟩
      exact ⟨middle, ⟨offered, admitted, first⟩, second⟩
    · rintro ⟨middle, ⟨offered, admitted, first⟩, second⟩
      exact ⟨offered, admitted, middle, first, second⟩

/-- What holds of a query and is kept by each call that a run makes holds at the end of the run. -/
theorem run_induction {holds : List Call → Query → Prop} (first : holds [] before)
    (step : ∀ calls middle call, before.run calls = .ok middle → holds calls middle →
      middle.offers call.kind = true → middle.Admits call →
        holds (calls ++ [call]) (middle.extended call))
    (made : before.run calls = .ok after) : holds calls after := by
  induction calls using List.reverseRecOn generalizing after with
  | nil =>
    cases made
    exact first
  | append_singleton calls call induction =>
    obtain ⟨middle, earlier, last⟩ := run_append_eq_ok_iff.mp made
    obtain ⟨offered, admitted, ended⟩ := run_cons_eq_ok_iff.mp last
    cases ended
    exact step calls middle call earlier (induction earlier) offered admitted

theorem Begins.reachable {collection : Collection} (begins : Begins collection query) :
    query.Reachable := by
  cases begins with
  | start configured made => exact .start configured made
  | startAs configured made => exact .startAs configured made

theorem Reachable.extended (reached : query.Reachable)
    (offered : query.offers call.kind = true) (admitted : query.Admits call) :
    (query.extended call).Reachable :=
  .perform reached offered (outcome_perform_eq_ok_iff.mpr ⟨admitted, rfl⟩)

theorem Reachable.run (reached : before.Reachable) (made : before.run calls = .ok after) :
    after.Reachable := by
  induction calls generalizing before with
  | nil =>
    cases made
    exact reached
  | cons call calls induction =>
    obtain ⟨offered, admitted, rest⟩ := run_cons_eq_ok_iff.mp made
    exact induction (reached.extended offered admitted) rest

/-- Every query has the calls that led to it as its history. -/
theorem Reachable.exists_run (reached : query.Reachable) :
    ∃ collection first calls, Begins collection first ∧ first.run calls = .ok query := by
  induction reached with
  | start configured made => exact ⟨_, _, [], .start configured made, rfl⟩
  | startAs configured made => exact ⟨_, _, [], .startAs configured made, rfl⟩
  | @perform before after call _ offered made induction =>
    obtain ⟨collection, first, calls, begins, earlier⟩ := induction
    obtain ⟨admitted, rfl⟩ := outcome_perform_eq_ok_iff.mp made
    have last : before.run [call] = .ok (before.extended call) :=
      run_cons_eq_ok_iff.mpr ⟨offered, admitted, rfl⟩
    exact ⟨collection, first, calls ++ [call], begins,
      run_append_eq_ok_iff.mpr ⟨before, earlier, last⟩⟩

end Query
end TwinGraph
