import TwinGraph.Session.Footprint

/-!
# How the query of a slot came about

Every query that a session stores has a derivation: the steps that led to it one from the other,
each with the session in which it was taken.  The first of them began a query.  What happens to
other queries, or to the builder afterwards, is no part of it.
-/

namespace TwinGraph

/-- Whether an action begins a query. -/
def Action.begins : Action → Bool
  | start _ _ => true
  | _ => false

/-- A step and the session in which it is taken. -/
structure Taken where
  /-- The session before the step. -/
  session : Session
  /-- The step. -/
  step : Step

/-- The events of a step where it is taken. -/
def Taken.events (taken : Taken) : List Event :=
  taken.session.events taken.step

namespace Session

/-- The derivations of all slots after a step, where some are known before it.  If the step stores
a query, it goes on with the derivation of the query from which it makes that one. -/
def derive (session : Session) (known : String → List Taken) (step : Step) : String → List Taken :=
  fun slot =>
    if slot ∈ step.writes ∧ (session.answer step).isOk = true then
      (if step.action.begins then [] else known step.source) ++ [⟨session, step⟩]
    else known slot

/-- The derivations of all slots after some steps. -/
def deriveAll (session : Session) (known : String → List Taken) :
    List Step → String → List Taken
  | [] => known
  | step :: rest => (session.after step).deriveAll (session.derive known step) rest

/-- The derivation of the query of a slot, after some steps of a session in which nothing has
happened before. -/
def derivation (steps : List Step) (slot : String) : List Taken :=
  Session.new.deriveAll (fun _ => []) steps slot

end Session

/-- The passage from a stage to another one that an event tells of. -/
def Event.passage? : Event → Option (Stage × Stage)
  | advanced before after => some (before, after)
  | _ => none

/-- The passages that the events along a derivation tell of. -/
def Taken.passages (derivation : List Taken) : List (Stage × Stage) :=
  (derivation.flatMap events).filterMap Event.passage?

/-- Whether passages lead from one stage to another one, each from where the last one led. -/
def Stage.Leads : List (Stage × Stage) → Stage → Stage → Prop
  | [], first, last => first = last
  | (before, after) :: rest, first, last => before = first ∧ Leads rest after last

end TwinGraph
