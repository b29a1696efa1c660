import TwinGraph.Proofs.Session.Stored
import TwinGraph.Proofs.Traced

/-!
# What a step tells and what it changes

The reply of a step is its answer with its events.  It depends on the builder and on the slots that
the step reads alone, and it tells the change of the session: the answer of a step that succeeds is
the query that it stores or the configuration that it takes.
-/

namespace TwinGraph

namespace Session

variable {session other : Session} {step : Step} {answer : Answer} {failure : Failure}

/-- The answer of a step together with its events. -/
def reply (session : Session) (step : Step) : Traced Failure Answer :=
  Prod.snd <$> session.perform step

@[simp]
theorem outcome_reply (session : Session) (step : Step) :
    (session.reply step).outcome = session.answer step :=
  Traced.outcome_map _ _

@[simp]
theorem events_reply (session : Session) (step : Step) :
    (session.reply step).events = session.events step :=
  Traced.events_map _ _

theorem map_snd_store (session : Session) (slot : String) (made : Traced QueryError Query) :
    Prod.snd <$> session.store slot made = Answer.query <$> made.mapError .refused := by
  simp [store]

section Replies

variable (session : Session) (source target : String)

theorem reply_reset : session.reply ⟨source, target, .reset⟩ =
    pure (.configuration .default) := by
  rfl

theorem reply_configure (configuration : Configuration) :
    session.reply ⟨source, target, .configure configuration⟩ =
      (fun builder : Builder => .configuration builder.configuration) <$>
        (Traced.silent (Builder.ofConfiguration configuration)).mapError .refused := by
  simp [reply, perform, take]

theorem reply_configureFrom (document : String) :
    session.reply ⟨source, target, .configureFrom document⟩ = (do
      let configuration ← (Traced.silent (Configuration.ofToml document)).mapError .refused
      session.reply ⟨source, target, .configure configuration⟩) := by
  simp [reply, perform]

theorem reply_start (collection : Collection) (root : Option String) :
    session.reply ⟨source, target, .start collection root⟩ =
      Answer.query <$> (session.builder.starting collection root).mapError .refused := by
  cases root <;> exact map_snd_store _ _ _

theorem reply_call (call : Call) :
    session.reply ⟨source, target, .call call⟩ = (do
      let query ← session.get source
      demand (query.offers call.kind)
      Answer.query <$> (query.perform call).mapError .refused) := by
  simp [reply, perform, map_snd_store]

theorem reply_filter (condition : Except Failure Condition) :
    session.reply ⟨source, target, .filter condition⟩ = (do
      let query ← session.get source
      demand (query.offers .filter)
      let condition ← Traced.silent condition
      Answer.query <$> (query.perform (.filter condition)).mapError .refused) := by
  simp [reply, perform, map_snd_store, Query.perform]

theorem reply_copy :
    session.reply ⟨source, target, .copy⟩ = Answer.query <$> session.get source := by
  have passed (query : Query) :
      (pure query : Traced QueryError Query).mapError Failure.refused = pure query := rfl
  simp [reply, perform, map_snd_store, passed]

theorem reply_inspect :
    session.reply ⟨source, target, .inspect⟩ = Answer.query <$> session.get source := by
  simp [reply, perform]

theorem reply_render :
    session.reply ⟨source, target, .render⟩ = (do
      let query ← session.get source
      demand query.stage.isTerminal
      (fun text => .text text query.text) <$> query.announce.mapError .refused) := by
  simp [reply, perform]

theorem reply_lookUp (name : String) :
    session.reply ⟨source, target, .lookUp name⟩ = (do
      let query ← session.get source
      (fun _ => .scope (query.scope.contains name) query.scope.size query.scope.isEmpty) <$>
        (query.scope.require name).mapError .refused) := by
  simp [reply, perform]

theorem reply_compareTo (slot : String) :
    session.reply ⟨source, target, .compareTo slot⟩ = (do
      let left ← session.get source
      let right ← session.get slot
      pure (.agreement (agreement left right))) := by
  simp [reply, perform]

end Replies

theorem reply_congr (builder : session.builder = other.builder)
    (seen : ∀ slot ∈ step.reads, session.query? slot = other.query? slot) :
    session.reply step = other.reply step := by
  have same (slot : String) (member : slot ∈ step.reads) : session.get slot = other.get slot := by
    rw [get, get, seen slot member]
  obtain ⟨source, target, action⟩ := step
  cases action with
  | reset => rw [reply_reset, reply_reset]
  | configure configuration => rw [reply_configure, reply_configure]
  | configureFrom document =>
    simp only [reply_configureFrom, reply_configure]
  | start collection root => rw [reply_start, reply_start, builder]
  | call call => rw [reply_call, reply_call, same source (by simp [Step.reads])]
  | filter condition => rw [reply_filter, reply_filter, same source (by simp [Step.reads])]
  | copy => rw [reply_copy, reply_copy, same source (by simp [Step.reads])]
  | inspect => rw [reply_inspect, reply_inspect, same source (by simp [Step.reads])]
  | render => rw [reply_render, reply_render, same source (by simp [Step.reads])]
  | lookUp name => rw [reply_lookUp, reply_lookUp, same source (by simp [Step.reads])]
  | compareTo slot =>
    rw [reply_compareTo, reply_compareTo, same source (by simp [Step.reads]),
      same slot (by simp [Step.reads])]

/-- A session after a step with an answer. -/
def changed (session : Session) (step : Step) : Except Failure Answer → Session
  | .ok (.query query) => if step.action.makes then session.put step.target query else session
  | .ok (.configuration configuration) =>
    if step.action.configures then { session with builder := ⟨configuration⟩ } else session
  | _ => session

theorem Does.eq_changed {next : Session} (does : session.Does step answer next) :
    next = session.changed step (.ok answer) := by
  cases does with
  | takes configures => simp [changed, configures]
  | starts action => simp [changed, action, Action.makes]
  | calls action => simp [changed, Action.makes_of_call? action]
  | copies action => simp [changed, action, Action.makes]
  | looks makes configures => cases answer <;> simp [changed, makes, configures]

/-- The answer of a step tells all that the step changes. -/
theorem after_eq (session : Session) (step : Step) :
    session.after step = session.changed step (session.answer step) := by
  cases replied : session.answer step with
  | ok answer => exact (does_of_answer replied).eq_changed
  | error failure => exact after_of_error replied

end Session
end TwinGraph
