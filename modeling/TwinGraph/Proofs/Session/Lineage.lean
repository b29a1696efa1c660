import TwinGraph.Proofs.Session.Reply
import TwinGraph.Session.Lineage

/-!
# Along derivations

What holds of a query that just began and is kept by every call and every copy holds of each query
that a session stores and of its derivation.
-/

namespace TwinGraph

theorem Action.begins_of_call? {action : Action} {call : Call}
    (made : action.call? = some call) : action.begins = false := by
  unfold call? at made
  split at made
  · rfl
  · rfl
  · cases made

theorem Builder.outcome_start_of_starting {builder : Builder} {collection : Collection}
    {root : Option String} {query : Query}
    (made : (builder.starting collection root).outcome = .ok query) :
    (Query.start collection (root.getD (builder.configuration.root collection))
      builder.configuration.logRendered).outcome = .ok query := by
  cases root with
  | none => exact made
  | some root => exact (outcome_startAs_eq_ok_iff.mp made).2

namespace Session

variable {session : Session} {step : Step} {known : String → List Taken} {slot : String}

theorem derive_of_notMem (untouched : slot ∉ step.writes) :
    session.derive known step slot = known slot :=
  if_neg fun stored => untouched stored.1

theorem derive_of_error {failure : Failure} (failed : session.answer step = .error failure) :
    session.derive known step slot = known slot := by
  refine if_neg fun stored => ?_
  rw [failed] at stored
  cases stored.2

theorem derive_target {answer : Answer} (makes : step.action.makes = true)
    (made : session.answer step = .ok answer) :
    session.derive known step step.target =
      (if step.action.begins then [] else known step.source) ++ [⟨session, step⟩] :=
  if_pos ⟨by simp [Step.writes, makes], by rw [made]; rfl⟩

theorem eq_or_mem_of_mem_derive {taken : Taken} (member : taken ∈ session.derive known step slot) :
    taken = ⟨session, step⟩ ∨ ∃ slot, taken ∈ known slot := by
  unfold derive at member
  split at member
  · rcases List.mem_append.mp member with earlier | last
    · split at earlier
      · cases earlier
      · exact .inr ⟨step.source, earlier⟩
    · exact .inl (List.mem_singleton.mp last)
  · exact .inr ⟨slot, member⟩

/-- A step of a derivation is one of the steps of the run, and the session in which it was taken is
what the steps before it had led to. -/
theorem split_of_mem_deriveAll {steps : List Step} {taken : Taken}
    (member : taken ∈ session.deriveAll known steps slot) :
    (∃ slot, taken ∈ known slot) ∨ ∃ earlier later, steps = earlier ++ taken.step :: later ∧
      taken.session = session.run earlier := by
  induction steps generalizing session known with
  | nil => exact .inl ⟨slot, member⟩
  | cons step rest induction =>
    rcases induction member with ⟨slot, derived⟩ | ⟨earlier, later, rfl, taking⟩
    · rcases eq_or_mem_of_mem_derive derived with rfl | before
      · exact .inr ⟨[], rest, rfl, rfl⟩
      · exact .inl before
    · exact .inr ⟨step :: earlier, later, rfl, taking⟩

theorem split_of_mem_derivation {steps : List Step} {taken : Taken}
    (member : taken ∈ derivation steps slot) :
    ∃ earlier later, steps = earlier ++ taken.step :: later ∧
      taken.session = Session.new.run earlier := by
  rcases split_of_mem_deriveAll member with ⟨_, nothing⟩ | found
  · cases nothing
  · exact found

/-- What steps keep of the queries that they make and of their derivations. -/
structure Hereditary (holds : List Taken → Query → Prop) : Prop where
  starts : ∀ {session : Session} {step : Step} {collection : Collection} {root : Option String}
    {query : Query}, step.action = .start collection root →
      (session.builder.starting collection root).outcome = .ok query →
      session.answer step = .ok (.query query) → holds [⟨session, step⟩] query
  calls : ∀ {session : Session} {step : Step} {call : Call} {before after : Query}
    {earlier : List Taken}, step.action.call? = some call →
      session.query? step.source = some before → before.offers call.kind = true →
      (before.perform call).outcome = .ok after → session.answer step = .ok (.query after) →
      holds earlier before → holds (earlier ++ [⟨session, step⟩]) after
  copies : ∀ {session : Session} {step : Step} {query : Query} {earlier : List Taken},
    step.action = .copy → session.query? step.source = some query →
      session.answer step = .ok (.query query) →
      holds earlier query → holds (earlier ++ [⟨session, step⟩]) query

/-- Whether something holds of all queries that a session stores and of their derivations. -/
def Throughout (holds : List Taken → Query → Prop) (session : Session)
    (known : String → List Taken) : Prop :=
  ∀ slot query, session.query? slot = some query → holds (known slot) query

namespace Throughout

variable {holds : List Taken → Query → Prop}

theorem of_unmade {next : Session} (throughout : Throughout holds session known)
    (makes : step.action.makes = false) (slots : next.slots = session.slots) :
    Throughout holds next (session.derive known step) := by
  intro slot query stored
  have untouched : slot ∉ step.writes := by simp [Step.writes, makes]
  rw [derive_of_notMem untouched]
  refine throughout slot query ?_
  rwa [Session.query?, ← slots]

theorem put (throughout : Throughout holds session known) {query : Query}
    (makes : step.action.makes = true) (made : session.answer step = .ok (.query query))
    (holdsOfMade : holds
      ((if step.action.begins then [] else known step.source) ++ [⟨session, step⟩]) query) :
    Throughout holds (session.put step.target query) (session.derive known step) := by
  intro slot stored found
  rw [query?_put] at found
  split at found
  case isTrue target =>
    cases found
    rw [target, derive_target makes made]
    exact holdsOfMade
  case isFalse elsewhere =>
    have untouched : slot ∉ step.writes := by simp [Step.writes, makes, elsewhere]
    rw [derive_of_notMem untouched]
    exact throughout slot stored found

theorem after (throughout : Throughout holds session known) (hereditary : Hereditary holds)
    (step : Step) : Throughout holds (session.after step) (session.derive known step) := by
  cases replied : session.answer step with
  | error failure =>
    rw [after_of_error replied]
    intro slot query stored
    rw [derive_of_error replied]
    exact throughout slot query stored
  | ok answer =>
    -- Only the target of a step that makes a query gets a derivation that is not known before.
    have does := does_of_answer replied
    generalize session.after step = next at does
    cases does with
    | takes configures =>
      exact throughout.of_unmade (Action.makes_of_configures configures) rfl
    | starts action started =>
      refine throughout.put (by simp [action, Action.makes]) replied ?_
      simpa [action, Action.begins] using hereditary.starts action started replied
    | calls action stored offered called =>
      refine throughout.put (Action.makes_of_call? action) replied ?_
      simpa [Action.begins_of_call? action] using
        hereditary.calls action stored offered called replied (throughout _ _ stored)
    | copies action stored =>
      refine throughout.put (by simp [action, Action.makes]) replied ?_
      simpa [action, Action.begins] using
        hereditary.copies action stored replied (throughout _ _ stored)
    | looks makes => exact throughout.of_unmade makes rfl

theorem run (throughout : Throughout holds session known) (hereditary : Hereditary holds)
    (steps : List Step) :
    Throughout holds (session.run steps) (session.deriveAll known steps) := by
  induction steps generalizing session known with
  | nil => exact throughout
  | cons step rest induction => exact induction (throughout.after hereditary step)

end Throughout

/-- What steps keep holds of every query that a session comes to store. -/
theorem Hereditary.holds_derivation {holds : List Taken → Query → Prop}
    (hereditary : Hereditary holds) {steps : List Step} {query : Query}
    (stored : (Session.new.run steps).query? slot = some query) :
    holds (derivation steps slot) query := by
  have nothing : Throughout holds Session.new fun _ => [] := by
    intro slot query stored
    cases stored
  exact nothing.run hereditary steps slot query stored

end Session
end TwinGraph
