import TwinGraph.Text.Separated
import TwinGraph.Vocabulary

/-!
# Events and traced calls

A query is built in a fixed order, and its stage tells which calls come next: joins and a condition
first, then a projection, which alone makes a query complete.  What a call records, whether it
succeeds or is refused, are its events.  A traced call is its outcome together with the events in
the order in which they happened.  Calls in sequence stop at the first refusal and keep the events
up to it.
-/

namespace TwinGraph

/-- How far a query has come. -/
inductive Stage where
  /-- The origin is chosen, and joins may follow. -/
  | base
  /-- A condition is attached. -/
  | filtered
  /-- The entries to project are chosen. -/
  | selected
  /-- The records of the root are capped. -/
  | topped
  /-- The records are counted. -/
  | counted
  deriving DecidableEq

namespace Stage

/-- The name of a stage. -/
def name : Stage → String
  | base => "Base"
  | filtered => "Filtered"
  | selected => "Selected"
  | topped => "Topped"
  | counted => "Counted"

/-- Whether the projection is still to be chosen. -/
def isOpen : Stage → Bool
  | base | filtered => true
  | _ => false

/-- Whether the query is complete and has a text. -/
def isTerminal : Stage → Bool
  | selected | topped | counted => true
  | _ => false

end Stage

/-- What a call records. -/
inductive Event where
  /-- The file at a path gave the text of a configuration. -/
  | loaded (path : String)
  /-- A query began. -/
  | started (collection : Collection) (root : String)
  /-- A join was added. -/
  | joined (target source relationship : String)
  /-- A query passed from one stage to the next. -/
  | advanced (before after : Stage)
  /-- A text was made. -/
  | rendered (text : String)
  /-- An alias outside the scope was referred to. -/
  | rejected (name : String) (scope : List String)
  deriving DecidableEq

namespace Event

/-- The line for an event: its level and its message.  The aliases of a scope are words, so they
stand in their quotes as they are. -/
def line : Event → String
  | loaded path => "DEBUG Loaded query config from " ++ path
  | started collection root => "DEBUG Starting query from " ++ collection.token ++ " " ++ root
  | joined target source relationship =>
    "DEBUG Joined " ++ target ++ " via " ++ source ++ "." ++ relationship
  | advanced before after => "DEBUG Query stage " ++ before.name ++ " -> " ++ after.name
  | rendered text => "DEBUG Rendered query: " ++ text
  | rejected name scope =>
    "WARN Rejected alias '" ++ name ++ "' (in scope: \x7b" ++
      String.ofList
        (Text.commaSeparated (scope.map fun member => '"' :: (member.toList ++ ['"']))) ++
      "\x7d)"

/-- Whether an event tells of a refusal. -/
def isWarning : Event → Bool
  | rejected _ _ => true
  | _ => false

end Event

/-- The outcome of a call, with the events that it recorded. -/
structure Traced (ε α : Type) where
  /-- The result, or why there is none. -/
  outcome : Except ε α
  /-- What the call recorded, in order. -/
  events : List Event

namespace Traced

variable {ε ε' α β : Type}

/-- A call that records one event and succeeds. -/
def record (event : Event) : Traced ε Unit := ⟨.ok (), [event]⟩

/-- A call that records nothing. -/
def silent (outcome : Except ε α) : Traced ε α := ⟨outcome, []⟩

/-- A call and, if it succeeds, another one on its result. -/
def andThen (call : Traced ε α) (next : α → Traced ε β) : Traced ε β :=
  match call.outcome with
  | .ok result => ⟨(next result).outcome, call.events ++ (next result).events⟩
  | .error error => ⟨.error error, call.events⟩

instance : Monad (Traced ε) where
  pure result := silent (.ok result)
  bind := andThen

/-- A call whose refusals are told in other terms. -/
def mapError (tell : ε → ε') (call : Traced ε α) : Traced ε' α :=
  ⟨call.outcome.mapError tell, call.events⟩

@[simp]
theorem outcome_pure (result : α) : (pure result : Traced ε α).outcome = .ok result := rfl

@[simp]
theorem events_pure (result : α) : (pure result : Traced ε α).events = [] := rfl

theorem bind_of_ok {call : Traced ε α} {result : α} (next : α → Traced ε β)
    (succeeds : call.outcome = .ok result) :
    (call >>= next) = ⟨(next result).outcome, call.events ++ (next result).events⟩ := by
  simp only [bind, andThen, succeeds]

theorem bind_of_error {call : Traced ε α} {error : ε} (next : α → Traced ε β)
    (fails : call.outcome = .error error) : (call >>= next) = ⟨.error error, call.events⟩ := by
  simp only [bind, andThen, fails]

theorem outcome_bind (call : Traced ε α) (next : α → Traced ε β) :
    (call >>= next).outcome = call.outcome.bind fun result => (next result).outcome := by
  cases outcome : call.outcome with
  | ok result => rw [bind_of_ok next outcome]; rfl
  | error error => rw [bind_of_error next outcome]; rfl

end Traced
end TwinGraph
