import TwinGraph.Session

/-!
# What is left when nothing is announced

A configuration, a query and a session hold a flag that decides whether texts are announced.  It is
set apart here: each of them without the flag, and answers and events without what comes of it.
-/

namespace TwinGraph

/-- The configuration that announces nothing. -/
def Configuration.quiet (configuration : Configuration) : Configuration :=
  { configuration with logRendered := false }

/-- The query that announces nothing. -/
def Query.quiet (query : Query) : Query :=
  { query with logRendered := false }

/-- The builder whose queries announce nothing. -/
def Builder.quiet (builder : Builder) : Builder :=
  ⟨builder.configuration.quiet⟩

/-- The session whose builder and queries announce nothing. -/
def Session.quiet (session : Session) : Session where
  builder := session.builder.quiet
  slots := session.slots.map fun entry => (entry.1, entry.2.quiet)

/-- An answer without the flag.  A configuration shows it, and a query keeps it to itself. -/
def Answer.quiet : Answer → Answer
  | configuration shown => .configuration shown.quiet
  | query shown => .query shown.quiet
  | answer => answer

/-- Whether an event announces a text. -/
def Event.announces : Event → Bool
  | rendered _ => true
  | _ => false

/-- The events that announce no text. -/
def Event.unannounced (events : List Event) : List Event :=
  events.filter fun event => !event.announces

/-- An answer and its events, without the flag and the announcement of a text. -/
def Session.hushed (reply : Except Failure Answer × List Event) :
    Except Failure Answer × List Event :=
  (reply.1.map Answer.quiet, Event.unannounced reply.2)

/-- The configuration that an action gives, if it gives one, before its aliases are looked at. -/
def Action.given? : Action → Option Configuration
  | reset => some .default
  | configure given => some given
  | configureFrom document => (Configuration.parse Toml.readDocument? document).toOption
  | _ => none

/-- Whether two steps are the same, or give configurations that differ in the flag alone. -/
inductive Step.Alike : Step → Step → Prop where
  | same (step : Step) : Alike step step
  | given {left right : Step} {mine theirs : Configuration} (first : left.action.given? = some mine)
    (second : right.action.given? = some theirs) (alike : mine.quiet = theirs.quiet) :
    Alike left right

end TwinGraph
