import TwinGraph.Proofs.Query.Log
import TwinGraph.Proofs.Query.Shape
import TwinGraph.Proofs.Session.Lineage

/-!
# The log of a session tells what happened

Each step records what it did: a refusal the alias outside of the scope, a success the join, the
passage to another stage or the text that it made.  Along the derivation of a query the passages
lead from stage to stage, from the first one to that of the query.
-/

namespace TwinGraph

/-- Whether the condition of a step, if it has one that cannot be built, fails as building does. -/
def Step.Sound (step : Step) : Prop :=
  ∀ failure, step.action = .filter (.error failure) → Condition.Unbuilt failure


namespace Query

theorem ends_start (collection : Collection) (root : String) (logRendered : Bool)
    {refused : QueryError → List Event → Prop} :
    (start collection root logRendered).Ends refused fun query events =>
      query.origin.collection = collection ∧ query.root = root ∧
        events = [.started collection root] :=
  (⟨rfl, rfl, rfl⟩ : collection = collection ∧ root = root ∧ [Event.started collection root] = _)

theorem announce_eq (query : Query) : query.announce =
    ⟨.ok query.text, if query.logRendered then [.rendered query.text] else []⟩ := by
  unfold announce
  split <;> rfl

theorem ends_announce (query : Query) {refused : QueryError → List Event → Prop} :
    query.announce.Ends refused fun text events =>
      text = query.text ∧ events = if query.logRendered then [.rendered text] else [] := by
  rw [announce_eq]
  exact ⟨rfl, rfl⟩

/-- What a call records leads from the stage before it to the stage after it. -/
theorem leads_record {before after : Query} {call : Call}
    (made : (before.perform call).outcome = .ok after) :
    Stage.Leads ((before.record after call).filterMap Event.passage?) before.stage after.stage := by
  obtain ⟨-, rfl⟩ := outcome_perform_eq_ok_iff.mp made
  cases call with
  | join join => exact (rfl : before.stage = before.stage)
  | filter condition | select entries | count => exact ⟨rfl, rfl⟩
  | top limit =>
    rw [record, stage_extended]
    cases stage : before.stage with
    | selected => exact (rfl : Stage.selected = .selected)
    | topped => exact (rfl : Stage.topped = .topped)
    | base | filtered | counted => exact ⟨rfl, rfl⟩

/-- No call leads back to the first stage. -/
theorem record_of_base {before after : Query} {call : Call}
    (made : (before.perform call).outcome = .ok after) (base : after.stage = .base) :
    before.stage = .base ∧ (before.record after call).filterMap Event.passage? = [] := by
  obtain ⟨-, rfl⟩ := outcome_perform_eq_ok_iff.mp made
  rw [stage_extended] at base
  cases call with
  | join join => exact ⟨base, rfl⟩
  | filter condition | select entries | count => cases base
  | top limit =>
    simp only [Call.kind, Stage.after] at base
    split at base <;> cases base

end Query

theorem Stage.Leads.append {first middle last : Stage} {earlier later : List (Stage × Stage)}
    (leads : Leads earlier first middle) (onward : Leads later middle last) :
    Leads (earlier ++ later) first last := by
  induction earlier generalizing first with
  | nil =>
    obtain rfl : first = middle := leads
    exact onward
  | cons passage rest induction => exact ⟨leads.1, induction leads.2⟩

@[simp]
theorem Taken.passages_append (earlier later : List Taken) :
    passages (earlier ++ later) = passages earlier ++ passages later := by
  simp [passages]

@[simp]
theorem Taken.passages_singleton (taken : Taken) :
    passages [taken] = taken.events.filterMap Event.passage? := by
  simp [passages]

namespace Session

variable {session : Session} {step : Step}

/-- What a step records that fails: the alias that is not in the scope of the query that it reads,
and nothing of a condition that was not built or of any other failure. -/
inductive Refusal (session : Session) (step : Step) : Failure → List Event → Prop where
  | unknown {query : Query} {name : String} (stored : session.query? step.source = some query)
    (absent : name ∉ query.scope.aliases) :
    Refusal session step (.refused (.unknownAlias name query.scope.aliases))
      [.rejected name query.scope.aliases]
  | unbuilt {failure : Failure} (action : step.action = .filter (.error failure)) :
    Refusal session step failure []
  | other {failure : Failure} (other : failure.isUnknownAlias = false) :
    Refusal session step failure []

/-- What a step records that succeeds with an answer. -/
inductive Record (session : Session) (step : Step) : Answer → List Event → Prop where
  | starts {collection : Collection} {root : Option String} {query : Query}
    (action : step.action = .start collection root)
    (origin : query.origin.collection = collection)
    (named : query.root = root.getD (session.builder.configuration.root collection)) :
    Record session step (.query query) [.started collection query.root]
  | calls {call : Call} {before after : Query} (action : step.action.call? = some call)
    (stored : session.query? step.source = some before) :
    Record session step (.query after) (before.record after call)
  | renders {query : Query} (action : step.action = .render)
    (stored : session.query? step.source = some query) :
    Record session step (.text query.text query.text)
      (if query.logRendered then [.rendered query.text] else [])
  | looks {answer : Answer} (begins : step.action.begins = false)
    (calls : step.action.call? = none) (renders : step.action ≠ .render) :
    Record session step answer []

theorem ends_of_scope {α : Type} {query : Query} {made : Traced QueryError α}
    {done : α → List Event → Prop} (stored : session.query? step.source = some query)
    (ends : made.Ends query.scope.Refusal done) :
    (made.mapError Failure.refused).Ends (session.Refusal step) done := by
  refine (ends.mono ?_ fun _ _ => id).mapError
  rintro error events (⟨absent⟩ | ⟨other⟩)
  · exact .unknown stored absent
  · exact .other other

theorem ends_silent {α : Type} {outcome : Except Failure α}
    (other : ∀ failure, outcome = .error failure → failure.isUnknownAlias = false) :
    (Traced.silent outcome).Ends (session.Refusal step) fun _ events => events = [] :=
  Traced.ends_silent (fun failure failed => .other (other failure failed)) fun _ _ => rfl

theorem ends_get (slot : String) :
    (session.get slot).Ends (session.Refusal step) fun _ events => events = [] := by
  refine ends_silent fun failure failed => ?_
  split at failed <;> cases failed
  rfl

theorem ends_demand (offered : Bool) :
    (demand offered).Ends (session.Refusal step) fun _ events => events = [] := by
  refine ends_silent fun failure failed => ?_
  split at failed <;> cases failed
  rfl

theorem ends_starting {collection : Collection} {root : Option String}
    (action : step.action = .start collection root) :
    ((session.builder.starting collection root).mapError Failure.refused).Ends
      (session.Refusal step) fun query => session.Record step (.query query) := by
  have started (name : String)
      (named : name = root.getD (session.builder.configuration.root collection)) :
      (Query.start collection name session.builder.configuration.logRendered).Ends
        (fun error => session.Refusal step (.refused error))
        fun query => session.Record step (.query query) := by
    refine (Query.ends_start collection name _).mono (fun _ _ => id) ?_
    rintro query _ ⟨origin, rfl, rfl⟩
    exact .starts action origin named
  cases root with
  | none => exact (started _ rfl).mapError
  | some root =>
    have validated : (Traced.silent (validateAlias "alias" root)).Ends
        (fun error => session.Refusal step (.refused error)) fun _ events => events = [] :=
      Traced.ends_silent (fun _ refused => .other (isUnknownAlias_of_validateAlias refused))
        fun _ _ => rfl
    exact (validated.bind fun _ _ => started root rfl).mapError

theorem ends_perform {call : Call} {before : Query} (action : step.action.call? = some call)
    (stored : session.query? step.source = some before) :
    (Answer.query <$> (before.perform call).mapError Failure.refused).Ends (session.Refusal step)
      (session.Record step) :=
  ((ends_of_scope stored (before.ends_perform call)).mono (fun _ _ => id)
    fun _ _ recorded => recorded ▸ .calls action stored).map

theorem ends_looks {α : Type} {call : Traced Failure α} {change : α → Answer}
    (begins : step.action.begins = false) (calls : step.action.call? = none)
    (renders : step.action ≠ .render)
    (ends : call.Ends (session.Refusal step) fun _ events => events = []) :
    (change <$> call).Ends (session.Refusal step) (session.Record step) :=
  (ends.mono (fun _ _ => id) fun _ _ quiet => quiet ▸ .looks begins calls renders).map

theorem ends_refusable {α : Type} {outcome : Except QueryError α}
    (other : ∀ error, outcome = .error error → error.isUnknownAlias = false) :
    ((Traced.silent outcome).mapError Failure.refused).Ends (session.Refusal step)
      fun _ events => events = [] :=
  (Traced.ends_silent (fun error failed => .other (other error failed)) fun _ _ => rfl).mapError

/-- What a step records tells how it ends. -/
theorem ends_reply (session : Session) (step : Step) :
    (session.reply step).Ends (session.Refusal step) (session.Record step) := by
  obtain ⟨source, target, action⟩ := step
  cases action with
  | reset => exact .looks rfl rfl nofun
  | configure configuration =>
    rw [reply_configure]
    exact ends_looks rfl rfl nofun
      (ends_refusable fun _ => Configuration.isUnknownAlias_of_ofConfiguration)
  | configureFrom document =>
    rw [reply_configureFrom]
    refine (ends_refusable fun _ => Configuration.isUnknownAlias_of_ofDocument).bind fun _ _ => ?_
    rw [reply_configure]
    exact ends_looks rfl rfl nofun
      (ends_refusable fun _ => Configuration.isUnknownAlias_of_ofConfiguration)
  | start collection root =>
    rw [reply_start]
    exact (ends_starting rfl).map
  | call call =>
    rw [reply_call]
    refine (ends_get source).bind fun before got => (ends_demand _).bind fun _ _ => ?_
    exact ends_perform rfl (outcome_get_eq_ok_iff.mp got)
  | filter condition =>
    rw [reply_filter]
    refine (ends_get source).bind fun before got => (ends_demand _).bind fun _ _ => ?_
    have built : (Traced.silent condition).Ends
        (session.Refusal ⟨source, target, .filter condition⟩) fun _ events => events = [] :=
      Traced.ends_silent (fun _ failed => .unbuilt (failed ▸ rfl)) fun _ _ => rfl
    refine built.bind fun condition outcome => ?_
    obtain rfl : _ = Except.ok condition := outcome
    exact ends_perform rfl (outcome_get_eq_ok_iff.mp got)
  | copy =>
    rw [reply_copy]
    exact ends_looks rfl rfl nofun (ends_get source)
  | inspect =>
    rw [reply_inspect]
    exact ends_looks rfl rfl nofun (ends_get source)
  | render =>
    rw [reply_render]
    refine (ends_get source).bind fun query got => (ends_demand _).bind fun _ _ => ?_
    have stored := outcome_get_eq_ok_iff.mp got
    refine Traced.Ends.map (Traced.Ends.mapError ?_)
    refine query.ends_announce.mono (fun _ _ => id) ?_
    rintro _ _ ⟨rfl, rfl⟩
    exact .renders rfl stored
  | lookUp name =>
    rw [reply_lookUp]
    refine (ends_get source).bind fun query got => ends_looks rfl rfl nofun ?_
    exact ends_of_scope (outcome_get_eq_ok_iff.mp got) (query.scope.ends_require name)
  | compareTo slot =>
    rw [reply_compareTo]
    refine (ends_get source).bind fun _ _ => (ends_get slot).bind fun _ _ => ?_
    exact .looks rfl rfl nofun

theorem record_of_answer {answer : Answer} (made : session.answer step = .ok answer) :
    session.Record step answer (session.events step) := by
  simpa using (ends_reply session step).of_ok ((outcome_reply session step).trans made)

theorem refusal_of_answer {failure : Failure} (failed : session.answer step = .error failure) :
    session.Refusal step failure (session.events step) := by
  simpa using (ends_reply session step).of_error ((outcome_reply session step).trans failed)

namespace Refusal

theorem of_unknown {name : String} {allowed : List String} {events : List Event}
    (recorded : session.Refusal step (.refused (.unknownAlias name allowed)) events)
    (sound : step.Sound) :
    events = [.rejected name allowed] ∧ ∃ query, session.query? step.source = some query ∧
      allowed = query.scope.aliases ∧ name ∉ allowed := by
  cases recorded with
  | unknown stored absent => exact ⟨rfl, _, stored, rfl, absent⟩
  | unbuilt action => cases (sound _ action).isUnknownAlias
  | other other => cases other

theorem of_other {failure : Failure} {events : List Event}
    (recorded : session.Refusal step failure events) (other : failure.isUnknownAlias = false) :
    events = [] := by
  cases recorded with
  | unknown => cases other
  | unbuilt => rfl
  | other => rfl

end Refusal

namespace Record

theorem of_call {call : Call} {before after : Query} {events : List Event}
    (recorded : session.Record step (.query after) events) (action : step.action.call? = some call)
    (stored : session.query? step.source = some before) : events = before.record after call := by
  cases recorded with
  | starts begun => simp [begun, Action.call?] at action
  | calls called found =>
    cases called.symm.trans action
    cases found.symm.trans stored
    rfl
  | looks _ idle => simp [idle] at action

theorem of_start {collection : Collection} {root : Option String} {query : Query}
    {events : List Event} (recorded : session.Record step (.query query) events)
    (action : step.action = .start collection root) :
    query.origin.collection = collection ∧
      query.root = root.getD (session.builder.configuration.root collection) ∧
      events = [.started collection query.root] := by
  cases recorded with
  | starts begun origin named =>
    cases begun.symm.trans action
    exact ⟨origin, named, rfl⟩
  | calls called => simp [action, Action.call?] at called
  | looks begins => simp [action, Action.begins] at begins

theorem of_copy {query : Query} {events : List Event}
    (recorded : session.Record step (.query query) events) (action : step.action = .copy) :
    events = [] := by
  cases recorded with
  | starts begun => simp [action] at begun
  | calls called => simp [action, Action.call?] at called
  | looks => rfl

theorem isWarning_of_mem {answer : Answer} {events : List Event} {event : Event}
    (recorded : session.Record step answer events) (member : event ∈ events) :
    event.isWarning = false := by
  cases recorded with
  | starts =>
    obtain rfl := List.mem_singleton.mp member
    rfl
  | calls => obtain ⟨join, rfl⟩ | rfl := Query.eq_of_mem_record member <;> rfl
  | renders =>
    split at member
    · obtain rfl := List.mem_singleton.mp member
      rfl
    · cases member
  | looks => cases member

end Record

theorem query_of_makes {answer : Answer} (made : session.answer step = .ok answer)
    (makes : step.action.makes = true) : ∃ query, answer = .query query := by
  have does := does_of_answer made
  generalize session.after step = next at does
  cases does with
  | takes configures => simp [Action.makes_of_configures configures] at makes
  | starts | calls | copies => exact ⟨_, rfl⟩
  | looks idle => simp [idle] at makes

theorem queries_of_call? {call : Call} {answer : Answer} (made : session.answer step = .ok answer)
    (action : step.action.call? = some call) :
    ∃ before after, session.query? step.source = some before ∧ answer = .query after := by
  have makes := Action.makes_of_call? action
  have does := does_of_answer made
  generalize session.after step = next at does
  cases does with
  | takes configures => simp [Action.makes_of_configures configures] at makes
  | starts begun => simp [begun, Action.call?] at action
  | calls _ stored => exact ⟨_, _, stored, rfl⟩
  | copies copied => simp [copied, Action.call?] at action
  | looks idle => simp [idle] at makes

/-- The passages along the derivation of a query lead from the first stage to that of the query. -/
theorem hereditary_leads : Hereditary fun history query =>
    Stage.Leads (Taken.passages history) .base query.stage ∧
      (query.stage = .base → Taken.passages history = []) where
  starts := by
    intro session step collection root query action started made
    obtain ⟨-, -, events⟩ := (record_of_answer made).of_start action
    have base : query.stage = .base := by
      cases Builder.outcome_start_of_starting started
      rfl
    rw [Taken.passages_singleton, Taken.events, events, base]
    exact ⟨rfl, fun _ => rfl⟩
  calls := by
    intro session step call before after earlier action stored _ called made history
    have events := (record_of_answer made).of_call action stored
    rw [Taken.passages_append, Taken.passages_singleton, Taken.events, events]
    -- The call goes on from the stage to which the passages before it have led.
    refine ⟨history.1.append (Query.leads_record called), fun base => ?_⟩
    obtain ⟨first, silent⟩ := Query.record_of_base called base
    rw [history.2 first, silent]
    rfl
  copies := by
    intro session step query earlier action _ made history
    have events := (record_of_answer made).of_copy action
    rw [Taken.passages_append, Taken.passages_singleton, Taken.events, events]
    simpa using history

/-- Each step records what happened and nothing else: of a refusal the alias outside of the scope,
of a success the origin, the join or the passage to another stage.  So the passages along the
derivation of a query are a chain from the first stage to that of the query. -/
theorem events_tell_what_happened :
    (∀ (session : Session) (step : Step) (failure : Failure),
      session.answer step = .error failure →
      (step.Sound → ∀ (name : String) (allowed : List String),
        failure = .refused (.unknownAlias name allowed) →
          session.events step = [.rejected name allowed] ∧
          ∃ query, session.query? step.source = some query ∧ allowed = query.scope.aliases ∧
            name ∉ allowed) ∧
      (failure.isUnknownAlias = false → session.events step = [])) ∧
    (∀ (session : Session) (step : Step) (answer : Answer), session.answer step = .ok answer →
      (∀ event ∈ session.events step, event.isWarning = false) ∧
      (∀ (collection : Collection) (root : Option String),
        step.action = .start collection root → ∃ query, answer = .query query ∧
          query.origin.collection = collection ∧
          query.root = root.getD (session.builder.configuration.root collection) ∧
          session.events step = [.started collection query.root]) ∧
      ∀ call : Call, step.action.call? = some call →
        ∃ before after, session.query? step.source = some before ∧ answer = .query after ∧
          (∀ join, call = .join join →
            session.events step = [.joined join.target join.source join.relationship]) ∧
          (call.kind = .top → before.stage = .selected ∨ before.stage = .topped →
            session.events step = []) ∧
          (call.kind ≠ .join →
            (call.kind = .top → before.stage ≠ .selected ∧ before.stage ≠ .topped) →
              session.events step = [.advanced before.stage after.stage])) ∧
    ∀ (steps : List Step) (slot : String) (query : Query),
      (Session.new.run steps).query? slot = some query →
        Stage.Leads (Taken.passages (derivation steps slot)) .base query.stage ∧
        (query.stage = .base → Taken.passages (derivation steps slot) = []) := by
  refine ⟨fun session step failure failed => ⟨?_, (refusal_of_answer failed).of_other⟩,
    fun session step answer made => ?_, fun steps slot query => hereditary_leads.holds_derivation⟩
  · rintro sound name allowed rfl
    exact (refusal_of_answer failed).of_unknown sound
  have recorded := record_of_answer made
  refine ⟨fun event => recorded.isWarning_of_mem, fun collection root action => ?_,
    fun call action => ?_⟩
  · obtain ⟨query, rfl⟩ := query_of_makes made (by simp [action, Action.makes])
    exact ⟨query, rfl, recorded.of_start action⟩
  · obtain ⟨before, after, stored, rfl⟩ := queries_of_call? made action
    have events := recorded.of_call action stored
    refine ⟨before, after, stored, rfl, ?_, ?_, ?_⟩
    · rintro join rfl
      exact events
    · intro kind recaps
      exact events.trans (Query.record_of_recaps kind recaps)
    · intro joins recaps
      exact events.trans (Query.record_of_advances joins recaps)

/-- A join from an alias that is not in scope and a selection of nothing, and the passages of a
query that was copied, filtered, capped, selected and capped again. -/
theorem events_tell_what_happened_of_recapped :
    let start : Step := ⟨"q", "q", .start .digitalTwins none⟩
    let astray : Step := ⟨"q", "q", .call (.join ⟨"desk", "hall", "holds", none⟩)⟩
    let nothing : Step := ⟨"q", "q", .call (.select [" "])⟩
    let session := Session.new.after start
    let steps : List Step := [start, ⟨"q", "r", .copy⟩,
      ⟨"r", "r", .filter (.ok (.membership "twin" "floor" .among ["1"]))⟩,
      ⟨"r", "r", .call (.top 3)⟩, ⟨"r", "r", .call (.select ["twin"])⟩, ⟨"r", "r", .call (.top 5)⟩]
    (∃ query, Session.new.answer start = .ok (.query query) ∧
      Session.new.events start = [.started .digitalTwins query.root]) ∧
    (astray.Sound ∧
      session.answer astray = .error (.refused (.unknownAlias "hall" ["twin"])) ∧
      session.events astray = [.rejected "hall" ["twin"]]) ∧
    (session.answer nothing = .error (.refused (.invalidArgument "aliases" .onlyBlankEntries)) ∧
      session.events nothing = []) ∧
    (∃ query, (Session.new.run steps).query? "r" = some query ∧ query.stage = .selected ∧
      Stage.Leads [(.base, .filtered), (.filtered, .topped), (.topped, .selected)]
        .base query.stage) ∧
    ∃ query, (Session.new.run steps).query? "q" = some query ∧ query.stage = .base ∧
      Taken.passages (derivation steps "q") = [] := by
  intro start astray nothing session steps
  obtain ⟨failing, succeeding, chain⟩ := events_tell_what_happened
  have astrayFails :
      session.answer astray = .error (.refused (.unknownAlias "hall" ["twin"])) := by rfl
  have nothingFails : session.answer nothing =
      .error (.refused (.invalidArgument "aliases" .onlyBlankEntries)) := by rfl
  refine ⟨?_, ⟨nofun, astrayFails, ((failing session astray _ astrayFails).1 nofun _ _ rfl).1⟩,
    ⟨nothingFails, (failing session nothing _ nothingFails).2 rfl⟩, ?_, ?_⟩
  · obtain ⟨query, starts, -, -, events⟩ := (succeeding Session.new start _ rfl).2.1 _ _ rfl
    cases starts
    exact ⟨_, rfl, events⟩
  · obtain ⟨query, stored⟩ : ∃ query, (Session.new.run steps).query? "r" = some query := ⟨_, rfl⟩
    have passages : Taken.passages (derivation steps "r") =
        [(.base, .filtered), (.filtered, .topped), (.topped, .selected)] := by decide +kernel
    have leads := (chain steps "r" query stored).1
    rw [passages] at leads
    exact ⟨query, stored, leads.2.2.2.symm, leads⟩
  · obtain ⟨query, stored, base⟩ : ∃ query, (Session.new.run steps).query? "q" = some query ∧
        query.stage = .base := ⟨_, rfl, rfl⟩
    exact ⟨query, stored, base, (chain steps "q" query stored).2 base⟩

end Session
end TwinGraph
