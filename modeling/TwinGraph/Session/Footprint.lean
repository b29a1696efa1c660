import TwinGraph.Session

/-!
# What a step reads and writes

A step takes a builder, or it reads the queries of some slots and may store a query in one slot.
Steps of two parties that take turns are apart if no party stores a query in a slot that the other
one reads or stores in.
-/

namespace TwinGraph

namespace Action

/-- Whether an action takes a builder in place of the one that the session has. -/
def configures : Action → Bool
  | reset | configure _ | configureFrom _ => true
  | _ => false

/-- Whether an action makes a query, which its step stores. -/
def makes : Action → Bool
  | start _ _ | call _ | filter _ | copy => true
  | _ => false

/-- The call that an action makes on a query, if it makes one. -/
def call? : Action → Option Call
  | call made => some made
  | filter (.ok condition) => some (.filter condition)
  | _ => none

end Action

namespace Step

/-- The slots whose queries a step reads. -/
def reads (step : Step) : List String :=
  match step.action with
  | .reset | .configure _ | .configureFrom _ | .start _ _ => []
  | .compareTo slot => [step.source, slot]
  | _ => [step.source]

/-- The slots in which a step stores a query, if it succeeds. -/
def writes (step : Step) : List String :=
  if step.action.makes then [step.target] else []

/-- Whether neither of two steps stores a query in a slot that the other one reads or stores in.
Both may read one slot. -/
def Apart (step other : Step) : Prop :=
  (∀ slot ∈ step.writes, slot ∉ other.reads ++ other.writes) ∧
    ∀ slot ∈ other.writes, slot ∉ step.reads ++ step.writes

theorem Apart.symm {step other : Step} (apart : step.Apart other) : other.Apart step :=
  And.symm apart

end Step

/-- The parties that take turns in a session. -/
inductive Party where
  | first
  | second
  deriving DecidableEq

/-- The party that is not this one. -/
def Party.other : Party → Party
  | first => second
  | second => first

/-- A step and the party whose step it is. -/
structure Turn where
  /-- The party. -/
  party : Party
  /-- The step. -/
  step : Step

namespace Turn

/-- The steps of one party, in order. -/
def stepsOf (party : Party) (turns : List Turn) : List Step :=
  (turns.filter (·.party = party)).map Turn.step

/-- The answers that one party gets in a session, each with its events. -/
def answersOf (party : Party) (session : Session) (turns : List Turn) :
    List (Except Failure Answer × List Event) :=
  (((session.answers (turns.map Turn.step)).zip turns).filter (·.2.party = party)).map (·.1)

end Turn
end TwinGraph
