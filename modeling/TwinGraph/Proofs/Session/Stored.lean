import TwinGraph.Proofs.Query.Calls
import TwinGraph.Session.Footprint

/-!
# The queries that a session stores

Whatever the steps of a session are, each slot holds a query that calls lead to from a configured
builder: a step that fails stores nothing, and one that succeeds makes a single call.
-/

namespace TwinGraph

namespace Traced

variable {ε ε' α : Type}

theorem outcome_mapError_eq_ok_iff {tell : ε → ε'} {call : Traced ε α} {result : α} :
    (call.mapError tell).outcome = .ok result ↔ call.outcome = .ok result :=
  mapError_eq_ok_iff

end Traced

/-- A query on a collection, with an alias of its own if one is given. -/
def Builder.starting (builder : Builder) (collection : Collection) :
    Option String → Traced QueryError Query
  | none => builder.start collection
  | some root => builder.startAs collection root

theorem Action.makes_of_call? {action : Action} {call : Call}
    (made : action.call? = some call) : action.makes = true := by
  unfold call? at made
  split at made
  · rfl
  · rfl
  · cases made

theorem Action.makes_of_configures {action : Action} (configures : action.configures = true) :
    action.makes = false := by
  cases action with
  | reset | configure configuration | configureFrom document => rfl
  | _ => cases configures

namespace Session

variable {session next : Session} {step : Step} {answer : Answer} {failure : Failure}

theorem outcome_get_eq_ok_iff {slot : String} {query : Query} :
    (session.get slot).outcome = .ok query ↔ session.query? slot = some query := by
  unfold get
  cases session.query? slot <;> simp

theorem outcome_demand_eq_ok_iff {offered : Bool} {result : Unit} :
    (demand offered).outcome = .ok result ↔ offered = true := by
  cases offered <;> simp [demand]

theorem outcome_store_eq_ok_iff {slot : String} {made : Traced QueryError Query} :
    (session.store slot made).outcome = .ok (next, answer) ↔
      ∃ query, made.outcome = .ok query ∧ next = session.put slot query ∧
        answer = .query query := by
  simp only [store, Traced.outcome_bind_eq_ok_iff, Traced.outcome_mapError_eq_ok_iff,
    Traced.outcome_pure, Except.ok.injEq, Prod.mk.injEq, eq_comm (a := next),
    eq_comm (a := answer)]

/-- What a step does that succeeds with an answer and leaves a session. -/
inductive Does (session : Session) (step : Step) : Answer → Session → Prop where
  /-- It takes a builder that was configured. -/
  | takes {builder : Builder} (configures : step.action.configures = true)
    (configured : builder.Configured) :
    Does session step (.configuration builder.configuration) { session with builder := builder }
  /-- It begins a query. -/
  | starts {collection : Collection} {root : Option String} {query : Query}
    (action : step.action = .start collection root)
    (made : (session.builder.starting collection root).outcome = .ok query) :
    Does session step (.query query) (session.put step.target query)
  /-- It makes a call on a query. -/
  | calls {call : Call} {before after : Query} (action : step.action.call? = some call)
    (stored : session.query? step.source = some before)
    (offered : before.offers call.kind = true)
    (made : (before.perform call).outcome = .ok after) :
    Does session step (.query after) (session.put step.target after)
  /-- It stores a query once more. -/
  | copies {query : Query} (action : step.action = .copy)
    (stored : session.query? step.source = some query) :
    Does session step (.query query) (session.put step.target query)
  /-- It leaves the session as it is. -/
  | looks {answer : Answer} (makes : step.action.makes = false)
    (configures : step.action.configures = false) : Does session step answer session

theorem perform_start (session : Session) (source target : String) (collection : Collection)
    (root : Option String) :
    session.perform ⟨source, target, .start collection root⟩ =
      session.store target (session.builder.starting collection root) := by
  cases root <;> rfl

theorem outcome_perform (made : session.answer step = .ok answer) :
    (session.perform step).outcome = .ok (session.after step, answer) := by
  unfold Session.answer at made
  unfold after
  cases outcome : (session.perform step).outcome with
  | ok result =>
    rw [outcome] at made
    cases made
    rfl
  | error failure =>
    rw [outcome] at made
    cases made

theorem does_of_perform {next : Session}
    (made : (session.perform step).outcome = .ok (next, answer)) :
    session.Does step answer next := by
  obtain ⟨source, target, action⟩ := step
  cases action with
  | reset =>
    cases made
    exact .takes rfl .new
  | configure configuration =>
    obtain ⟨builder, built, took⟩ := Traced.outcome_bind_eq_ok_iff.mp made
    cases took
    exact .takes rfl (.ofConfiguration (Traced.outcome_mapError_eq_ok_iff.mp built))
  | configureFrom document =>
    obtain ⟨_, -, rest⟩ := Traced.outcome_bind_eq_ok_iff.mp made
    obtain ⟨builder, built, took⟩ := Traced.outcome_bind_eq_ok_iff.mp rest
    cases took
    exact .takes rfl (.ofConfiguration (Traced.outcome_mapError_eq_ok_iff.mp built))
  | start collection root =>
    rw [perform_start] at made
    obtain ⟨query, started, rfl, rfl⟩ := outcome_store_eq_ok_iff.mp made
    exact .starts rfl started
  | call call =>
    obtain ⟨before, stored, rest⟩ := Traced.outcome_bind_eq_ok_iff.mp made
    obtain ⟨_, offered, rest⟩ := Traced.outcome_bind_eq_ok_iff.mp rest
    obtain ⟨query, called, rfl, rfl⟩ := outcome_store_eq_ok_iff.mp rest
    exact .calls rfl (outcome_get_eq_ok_iff.mp stored) (outcome_demand_eq_ok_iff.mp offered) called
  | filter condition =>
    obtain ⟨before, stored, rest⟩ := Traced.outcome_bind_eq_ok_iff.mp made
    obtain ⟨_, offered, rest⟩ := Traced.outcome_bind_eq_ok_iff.mp rest
    obtain ⟨condition, rfl, rest⟩ := Traced.outcome_bind_eq_ok_iff.mp rest
    obtain ⟨query, called, rfl, rfl⟩ := outcome_store_eq_ok_iff.mp rest
    have attached : (before.perform (.filter condition)).outcome = .ok query := called
    exact .calls rfl (outcome_get_eq_ok_iff.mp stored) (outcome_demand_eq_ok_iff.mp offered)
      attached
  | copy =>
    obtain ⟨before, stored, rest⟩ := Traced.outcome_bind_eq_ok_iff.mp made
    obtain ⟨query, same, rfl, rfl⟩ := outcome_store_eq_ok_iff.mp rest
    cases same
    exact .copies rfl (outcome_get_eq_ok_iff.mp stored)
  | inspect =>
    obtain ⟨_, -, rest⟩ := Traced.outcome_bind_eq_ok_iff.mp made
    cases rest
    exact .looks rfl rfl
  | render =>
    obtain ⟨_, -, rest⟩ := Traced.outcome_bind_eq_ok_iff.mp made
    obtain ⟨_, -, rest⟩ := Traced.outcome_bind_eq_ok_iff.mp rest
    obtain ⟨_, -, rest⟩ := Traced.outcome_bind_eq_ok_iff.mp rest
    cases rest
    exact .looks rfl rfl
  | lookUp name =>
    obtain ⟨_, -, rest⟩ := Traced.outcome_bind_eq_ok_iff.mp made
    obtain ⟨_, -, rest⟩ := Traced.outcome_bind_eq_ok_iff.mp rest
    cases rest
    exact .looks rfl rfl
  | compareTo slot =>
    obtain ⟨_, -, rest⟩ := Traced.outcome_bind_eq_ok_iff.mp made
    obtain ⟨_, -, rest⟩ := Traced.outcome_bind_eq_ok_iff.mp rest
    cases rest
    exact .looks rfl rfl

/-- A step that succeeds does one of five things. -/
theorem does_of_answer (made : session.answer step = .ok answer) :
    session.Does step answer (session.after step) :=
  does_of_perform (outcome_perform made)

theorem after_of_error (failed : session.answer step = .error failure) :
    session.after step = session := by
  unfold Session.answer at failed
  unfold after
  cases outcome : (session.perform step).outcome with
  | ok result =>
    rw [outcome] at failed
    cases failed
  | error failure => rfl

/-- The builder is configured, and calls lead to every query of a slot. -/
structure Grown (session : Session) : Prop where
  configured : session.builder.Configured
  reachable : ∀ slot query, session.query? slot = some query → query.Reachable

namespace Grown

theorem new : Session.new.Grown where
  configured := .new
  reachable := by
    intro slot query stored
    cases stored

theorem put (grown : session.Grown) {query : Query} (reached : query.Reachable)
    (target : String) : (session.put target query).Grown := by
  refine ⟨grown.configured, fun slot other stored => ?_⟩
  rw [query?_put] at stored
  split at stored
  · cases stored
    exact reached
  · exact grown.reachable slot other stored

theorem reachable_of_starting (grown : session.Grown) {collection : Collection}
    {root : Option String} {query : Query}
    (made : (session.builder.starting collection root).outcome = .ok query) : query.Reachable := by
  cases root with
  | none => exact .start grown.configured made
  | some root => exact .startAs grown.configured made

theorem after (grown : session.Grown) : (session.after step).Grown := by
  cases replied : session.answer step with
  | error failure =>
    rw [after_of_error replied]
    exact grown
  | ok answer =>
    have does := does_of_answer replied
    generalize session.after step = next at does
    cases does with
    | takes _ configured => exact ⟨configured, grown.reachable⟩
    | starts _ made => exact grown.put (grown.reachable_of_starting made) step.target
    | calls _ stored offered made =>
      exact grown.put (.perform (grown.reachable _ _ stored) offered made) step.target
    | copies _ stored => exact grown.put (grown.reachable _ _ stored) step.target
    | looks => exact grown

theorem run {steps : List Step} (grown : session.Grown) : (session.run steps).Grown := by
  induction steps generalizing session with
  | nil => exact grown
  | cons step rest induction => exact induction grown.after

end Grown
end Session
end TwinGraph
