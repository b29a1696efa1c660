import TwinGraph.Query

/-!
# Sessions

A session keeps a builder and named queries, and answers one step after the other.  A step reads
the query of one slot and may store a query in a slot; a step that fails stores nothing.
-/

namespace TwinGraph

/-- Why a step has no answer. -/
inductive Failure where
  /-- A call refused its arguments. -/
  | refused (error : QueryError)
  /-- The vocabulary has no word of a name that a condition uses. -/
  | unknownName
  /-- The query of the slot offers no such call. -/
  | notAvailable
  /-- No query has been stored in the slot. -/
  | emptySlot
  deriving DecidableEq

/-- What a step does. -/
inductive Action where
  /-- Begin again with the builder that has no configuration. -/
  | reset
  /-- Take a configuration. -/
  | configure (configuration : Configuration)
  /-- Take the configuration that a TOML document describes. -/
  | configureFrom (document : String)
  /-- Begin a query on a collection, with an alias of its own if one is given. -/
  | start (collection : Collection) (root : Option String)
  /-- Make a call on a query. -/
  | call (call : Call)
  /-- Attach a condition, if it can be built. -/
  | filter (condition : Except Failure Condition)
  /-- Store a query once more. -/
  | copy
  /-- Look at a query. -/
  | inspect
  /-- Write a query out. -/
  | render
  /-- Look for an alias in the scope of a query. -/
  | lookUp (name : String)
  /-- Compare a query to that of another slot. -/
  | compareTo (slot : String)

/-- A step of a session. -/
structure Step where
  /-- The slot whose query the step reads. -/
  source : String
  /-- The slot in which it stores a query. -/
  target : String
  /-- What it does. -/
  action : Action

/-- Which parts of two queries are equal. -/
structure Agreement where
  /-- The same aliases are in scope, in any order. -/
  scope : Bool
  /-- The same joins stand in the same order. -/
  joins : Bool
  /-- The conditions are the same. -/
  condition : Bool
  /-- The projections are the same. -/
  projection : Bool
  deriving DecidableEq

/-- What a step answers. -/
inductive Answer where
  | configuration (configuration : Configuration)
  | query (query : Query)
  /-- A text that may have been announced, and the text that never is. -/
  | text (announced plain : String)
  | scope (contains : Bool) (size : Nat) (isEmpty : Bool)
  | agreement (agreement : Agreement)

/-- A builder and the queries of the slots. -/
structure Session where
  /-- The builder from which queries begin. -/
  builder : Builder
  /-- The queries by the names of their slots. -/
  slots : List (String × Query)

namespace Session

/-- A session in which nothing has happened. -/
def new : Session := ⟨.new, []⟩

/-- The query of a slot. -/
def query? (session : Session) (slot : String) : Option Query :=
  session.slots.lookup slot

/-- The session with a query in a slot. -/
def put (session : Session) (slot : String) (query : Query) : Session :=
  { session with slots := (slot, query) :: session.slots.filter (·.1 != slot) }

theorem query?_put (session : Session) (slot other : String) (query : Query) :
    (session.put slot query).query? other =
      if other = slot then some query else session.query? other := by
  have filtered (slots : List (String × Query)) (different : (other == slot) = false) :
      List.lookup other (slots.filter (·.1 != slot)) = List.lookup other slots := by
    induction slots with
    | nil => rfl
    | cons entry rest ih =>
      obtain ⟨name, stored⟩ := entry
      by_cases same : name = slot
      · simp [same, ih, List.lookup_cons, different]
      · simp [same, List.lookup_cons, ih]
  by_cases same : other = slot
  · simp [put, query?, same]
  · have different : (other == slot) = false := by simpa using same
    simp [put, query?, List.lookup_cons, same, different, filtered _ different]

/-- The query of a slot, in which there has to be one. -/
def get (session : Session) (slot : String) : Traced Failure Query :=
  Traced.silent (match session.query? slot with
    | some query => .ok query
    | none => .error .emptySlot)

/-- Equality of two conditions that may be missing. -/
def sameCondition : Option Condition → Option Condition → Bool
  | none, none => true
  | some left, some right => left.same right
  | _, _ => false

/-- Which parts of two queries are equal. -/
def agreement (left right : Query) : Agreement where
  scope := left.scope.sameAliases right.scope
  joins := left.joins == right.joins
  condition := sameCondition left.condition right.condition
  projection := left.projection == right.projection

/-- Refuse what a query does not offer. -/
def demand (offered : Bool) : Traced Failure Unit :=
  Traced.silent (if offered then .ok () else .error .notAvailable)

/-- Take a builder, and answer its configuration. -/
def take (session : Session) (builder : Builder) : Session × Answer :=
  ({ session with builder := builder }, .configuration builder.configuration)

/-- Store the query that a call makes, and answer it. -/
def store (session : Session) (slot : String) (made : Traced QueryError Query) :
    Traced Failure (Session × Answer) := do
  let query ← made.mapError .refused
  return (session.put slot query, .query query)

/-- The session after a step, and the answer of the step. -/
def perform (session : Session) (step : Step) : Traced Failure (Session × Answer) :=
  match step.action with
  | .reset => pure (session.take .new)
  | .configure configuration => do
    let builder ←
      (Traced.silent (Builder.ofConfiguration configuration)).mapError Failure.refused
    return session.take builder
  | .configureFrom document => do
    let configuration ←
      (Traced.silent (Configuration.ofToml document)).mapError Failure.refused
    let builder ←
      (Traced.silent (Builder.ofConfiguration configuration)).mapError Failure.refused
    return session.take builder
  | .start collection none => session.store step.target (session.builder.start collection)
  | .start collection (some root) =>
    session.store step.target (session.builder.startAs collection root)
  | .call call => do
    let query ← session.get step.source
    demand (query.offers call.kind)
    session.store step.target (query.perform call)
  | .filter condition => do
    let query ← session.get step.source
    demand (query.offers .filter)
    let condition ← Traced.silent condition
    session.store step.target (query.filter condition)
  | .copy => do
    let query ← session.get step.source
    session.store step.target (pure query)
  | .inspect => do
    let query ← session.get step.source
    return (session, .query query)
  | .render => do
    let query ← session.get step.source
    demand query.stage.isTerminal
    let text ← query.announce.mapError Failure.refused
    return (session, .text text query.text)
  | .lookUp name => do
    let query ← session.get step.source
    (query.scope.require name).mapError Failure.refused
    return (session,
      .scope (query.scope.contains name) query.scope.size query.scope.isEmpty)
  | .compareTo slot => do
    let left ← session.get step.source
    let right ← session.get slot
    return (session, .agreement (agreement left right))

/-- The session after a step, which is as it was if the step fails. -/
def after (session : Session) (step : Step) : Session :=
  match (session.perform step).outcome with
  | .ok (session, _) => session
  | .error _ => session

/-- The answer of a step, or why it has none. -/
def answer (session : Session) (step : Step) : Except Failure Answer :=
  (session.perform step).outcome.map (·.2)

/-- The events of a step. -/
def events (session : Session) (step : Step) : List Event :=
  (session.perform step).events

/-- The session after some steps. -/
def run (session : Session) (steps : List Step) : Session :=
  steps.foldl after session

/-- The answers of some steps, each with its events. -/
def answers (session : Session) : List Step → List (Except Failure Answer × List Event)
  | [] => []
  | step :: rest =>
    (session.answer step, session.events step) :: (session.after step).answers rest

end Session
end TwinGraph
