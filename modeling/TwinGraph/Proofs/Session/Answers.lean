import TwinGraph.Proofs.Query.Run
import TwinGraph.Proofs.Session.Stored

/-!
# What a session answers for a query that it stores

A step that makes a call or asks for a text answers what the query of its slot gives, whatever else
the session holds.  In turn a query stays in its slot until a step stores another one there.
-/

namespace TwinGraph

theorem Query.outcome_announce (query : Query) : query.announce.outcome = .ok query.text := by
  unfold announce
  split <;> rfl

namespace Session

variable {session : Session} {slot : String} {query : Query}

theorem get_of_stored (stored : session.query? slot = some query) :
    session.get slot = pure query := by
  rw [get, stored]
  rfl

theorem outcome_store (session : Session) (slot : String) (made : Traced QueryError Query) :
    (session.store slot made).outcome =
      (made.outcome.mapError .refused).map fun query => (session.put slot query, .query query) := by
  rw [store, Traced.outcome_bind]
  cases outcome : (made.mapError Failure.refused).outcome with
  | ok query =>
    have mapped : made.outcome.mapError Failure.refused = .ok query := outcome
    rw [mapped]
    rfl
  | error failure =>
    have mapped : made.outcome.mapError Failure.refused = .error failure := outcome
    rw [mapped]
    rfl

/-- A call answers the query that it leads to, or why there is none. -/
theorem answer_call (stored : session.query? slot = some query) (target : String) (call : Call) :
    session.answer ⟨slot, target, .call call⟩ = (query.attempt call).map .query := by
  have performed : (session.perform ⟨slot, target, .call call⟩).outcome =
      (query.attempt call).map fun made => (session.put target made, .query made) := by
    rw [perform, Traced.outcome_bind, get_of_stored stored, Traced.outcome_pure]
    simp only [Except.bind, Traced.outcome_bind, demand, Traced.outcome_silent, Query.attempt]
    cases query.offers call.kind with
    | true => simpa using outcome_store session target (query.perform call)
    | false => rfl
  rw [answer, performed]
  cases query.attempt call <;> rfl

/-- A condition that could be built is attached by a call. -/
theorem answer_filter (session : Session) (slot target : String) (condition : Condition) :
    session.answer ⟨slot, target, .filter (.ok condition)⟩ =
      session.answer ⟨slot, target, .call (.filter condition)⟩ := by
  rfl

/-- A text is given of a complete query only, and then it is twice the same. -/
theorem answer_render (stored : session.query? slot = some query) (target : String) :
    session.answer ⟨slot, target, .render⟩ =
      if query.stage.isTerminal then .ok (.text query.text query.text)
      else .error .notAvailable := by
  rw [answer, perform, Traced.outcome_bind, get_of_stored stored, Traced.outcome_pure]
  simp only [Except.bind, Traced.outcome_bind, demand, Traced.outcome_silent]
  cases query.stage.isTerminal with
  | true =>
    have announced : (query.announce.mapError Failure.refused).outcome = .ok query.text :=
      Traced.outcome_mapError_eq_ok_iff.mpr query.outcome_announce
    simp [announced, Except.map]
  | false => rfl

theorem query?_after {step : Step} (untouched : slot ∉ step.writes) :
    (session.after step).query? slot = session.query? slot := by
  have put (makes : step.action.makes = true) (made : Query) :
      (session.put step.target made).query? slot = session.query? slot := by
    have elsewhere : slot ≠ step.target := by simpa [Step.writes, makes] using untouched
    exact (query?_put _ _ _ _).trans (if_neg elsewhere)
  cases replied : session.answer step with
  | error failure => rw [after_of_error replied]
  | ok answer =>
    have does := does_of_answer replied
    generalize session.after step = next at does
    cases does with
    | starts action => exact put (by rw [action]; rfl) _
    | calls action => exact put (Action.makes_of_call? action) _
    | copies action => exact put (by rw [action]; rfl) _
    | takes | looks => rfl

/-- No step reaches into a slot other than the one in which it stores. -/
theorem query?_run_of_ne {steps : List Step} (elsewhere : ∀ step ∈ steps, step.target ≠ slot) :
    (session.run steps).query? slot = session.query? slot := by
  induction steps generalizing session with
  | nil => rfl
  | cons step rest induction =>
    rw [List.forall_mem_cons] at elsewhere
    have untouched : slot ∉ step.writes := by
      unfold Step.writes
      split <;> simp [elsewhere.1.symm]
    exact (induction elsewhere.2).trans (query?_after untouched)

theorem run_append (session : Session) (earlier later : List Step) :
    session.run (earlier ++ later) = (session.run earlier).run later :=
  List.foldl_append

end Session
end TwinGraph
