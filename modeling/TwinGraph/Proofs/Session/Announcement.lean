import Mathlib.Data.List.Forall2
import TwinGraph.Proofs.Session.Answers
import TwinGraph.Proofs.Session.Log
import TwinGraph.Session.Announcement

/-!
# Announcements change nothing else

No step looks at the flag but the one that makes a text, so a session that announces nothing gives
the same answers and records the same but the announcements.  The flag of a query is that of the
builder from which it began, whatever is done to the query and to the builder afterwards.
-/

namespace TwinGraph

namespace Traced

variable {ε ε' α β : Type}

theorem map_mapError (change : α → β) (tell : ε → ε') (call : Traced ε α) :
    change <$> call.mapError tell = (change <$> call).mapError tell := by
  obtain ⟨outcome, events⟩ := call
  rw [map_eq, map_eq]
  cases outcome <;> rfl

end Traced

namespace Query

theorem advance_quiet (query : Query) (stage : Stage) :
    query.quiet.advance stage = quiet <$> query.advance stage := by
  rfl

theorem join_quiet (query : Query) (join : Join) :
    query.quiet.join join = quiet <$> query.join join := by
  simp only [Query.join, map_bind, map_pure]
  rfl

theorem filter_quiet (query : Query) (condition : Condition) :
    query.quiet.filter condition = quiet <$> query.filter condition := by
  simp only [filter, map_bind, ← advance_quiet]
  rfl

theorem selectOpen_quiet (query : Query) (entries : List String) :
    query.quiet.selectOpen entries = quiet <$> query.selectOpen entries := by
  unfold selectOpen
  dsimp only
  split
  · rfl
  · simp only [map_bind, ← advance_quiet]
    rfl

theorem selectTopped_quiet (query : Query) (entries : List String) :
    query.quiet.selectTopped entries = quiet <$> query.selectTopped entries := by
  unfold selectTopped
  split
  · rfl
  · simp only [map_bind, ← advance_quiet]
    rfl

theorem select_quiet (query : Query) (entries : List String) :
    query.quiet.select entries = quiet <$> query.select entries := by
  have stage : query.quiet.stage = query.stage := rfl
  unfold select
  rw [stage]
  split
  · exact query.selectTopped_quiet entries
  · exact query.selectOpen_quiet entries

theorem top_quiet (query : Query) (limit : UInt16) :
    query.quiet.top limit = quiet <$> query.top limit := by
  have stage : query.quiet.stage = query.stage := rfl
  unfold top
  rw [stage]
  cases query.stage <;> rfl

/-- No call looks at the flag. -/
theorem perform_quiet (query : Query) (call : Call) :
    query.quiet.perform call = quiet <$> query.perform call := by
  cases call with
  | join join => exact query.join_quiet join
  | filter condition => exact query.filter_quiet condition
  | select entries => exact query.select_quiet entries
  | top limit => exact query.top_quiet limit
  | count => rfl

theorem logRendered_extended (query : Query) (call : Call) :
    (query.extended call).logRendered = query.logRendered := by
  cases completes : call.kind.completes with
  | true => rw [query.extended_eq_of_completes completes]
  | false =>
    cases call with
    | join join | filter condition => rfl
    | _ => cases completes

end Query

theorem Configuration.validate_quiet (configuration : Configuration) :
    configuration.quiet.validate = configuration.validate := rfl

theorem Answer.quiet_quiet (answer : Answer) : answer.quiet.quiet = answer.quiet := by
  cases answer <;> rfl

theorem Builder.starting_quiet (builder : Builder) (collection : Collection)
    (root : Option String) :
    builder.quiet.starting collection root = Query.quiet <$> builder.starting collection root := by
  have started (name : String) : Query.start collection name false =
      Query.quiet <$> Query.start collection name builder.configuration.logRendered := rfl
  cases root with
  | none => exact started _
  | some root =>
    have shape : builder.starting collection (some root) = (do
        Traced.silent (validateAlias "alias" root)
        Query.start collection root builder.configuration.logRendered) := rfl
    rw [shape, map_bind, ← started]
    rfl

namespace Session

variable {session left right : Session} {step : Step}

theorem query?_quiet (session : Session) (slot : String) :
    session.quiet.query? slot = (session.query? slot).map Query.quiet := by
  unfold query? quiet
  dsimp only
  induction session.slots with
  | nil => rfl
  | cons entry rest induction =>
    rw [List.map_cons, List.lookup_cons, List.lookup_cons]
    split
    · rfl
    · exact induction

theorem get_quiet (session : Session) (slot : String) :
    session.quiet.get slot = Query.quiet <$> session.get slot := by
  rw [get, get, query?_quiet]
  cases session.query? slot <;> rfl

theorem quiet_put (session : Session) (slot : String) (query : Query) :
    (session.put slot query).quiet = session.quiet.put slot query.quiet := by
  simp only [put, quiet, List.map_cons, List.filter_map]
  rfl

theorem quiet_changed (session : Session) (step : Step) (answer : Except Failure Answer) :
    (session.changed step answer).quiet = session.quiet.changed step (answer.map Answer.quiet) := by
  cases answer with
  | error failure => rfl
  | ok answer =>
    cases answer with
    | configuration configuration =>
      have shape : (Except.ok (.configuration configuration) : Except Failure Answer).map
        Answer.quiet = .ok (.configuration configuration.quiet) := rfl
      rw [shape, changed, changed]
      split <;> rfl
    | query query =>
      have shape : (Except.ok (.query query) : Except Failure Answer).map
        Answer.quiet = .ok (.query query.quiet) := rfl
      rw [shape, changed, changed]
      split
      · exact session.quiet_put step.target query
      · rfl
    | _ => rfl

theorem map_query_quiet (made : Traced QueryError Query) :
    Answer.query <$> (Query.quiet <$> made).mapError Failure.refused =
      (Answer.quiet ∘ Answer.query) <$> made.mapError .refused := by
  rw [← Traced.map_mapError, Functor.map_map]
  rfl

/-- A step that neither gives a configuration nor makes a text does the same without the flag. -/
theorem reply_quiet (configures : step.action.configures = false)
    (renders : step.action ≠ .render) :
    session.quiet.reply step = Answer.quiet <$> session.reply step := by
  obtain ⟨source, target, action⟩ := step
  cases action with
  | reset | configure configuration | configureFrom document => cases configures
  | start collection root =>
    have began : session.quiet.builder = session.builder.quiet := rfl
    rw [reply_start, reply_start, began, Builder.starting_quiet, map_query_quiet, Functor.map_map]
    rfl
  | call made =>
    simp only [reply_call, get_quiet, bind_map_left, map_bind, Functor.map_map,
      Query.perform_quiet, map_query_quiet]
    rfl
  | filter condition =>
    simp only [reply_filter, get_quiet, bind_map_left, map_bind, Functor.map_map,
      Query.perform_quiet, map_query_quiet]
    rfl
  | copy =>
    simp only [reply_copy, get_quiet, Functor.map_map]
    rfl
  | inspect =>
    simp only [reply_inspect, get_quiet, Functor.map_map]
    rfl
  | render => cases renders rfl
  | lookUp name =>
    simp only [reply_lookUp, get_quiet, bind_map_left, map_bind, Functor.map_map]
    rfl
  | compareTo slot =>
    simp only [reply_compareTo, get_quiet, bind_map_left, map_bind, map_pure]
    rfl

/-- The answer of a step and its events, without the flag and the announcement of a text. -/
def heard (session : Session) (step : Step) : Except Failure Answer × List Event :=
  hushed (session.answer step, session.events step)

theorem heard_eq (session : Session) (step : Step) :
    session.heard step = hushed ((session.reply step).outcome, (session.reply step).events) := by
  rw [outcome_reply, events_reply]
  rfl

theorem map_quiet_quiet (answer : Except Failure Answer) :
    (answer.map Answer.quiet).map Answer.quiet = answer.map Answer.quiet := by
  cases answer with
  | ok answer => exact congrArg Except.ok answer.quiet_quiet
  | error failure => rfl

theorem heard_render (session : Session) (source target : String) :
    session.quiet.heard ⟨source, target, .render⟩ = session.heard ⟨source, target, .render⟩ := by
  rw [heard_eq, heard_eq, reply_render, reply_render, get_quiet, bind_map_left]
  cases stored : session.query? source with
  | none =>
    have missing : session.get source = Traced.silent (.error .emptySlot) := by rw [get, stored]
    rw [missing]
    rfl
  | some query =>
    have stage : query.quiet.stage = query.stage := rfl
    rw [get_of_stored stored, pure_bind, pure_bind, stage, query.announce_eq]
    cases query.stage.isTerminal with
    | false => rfl
    | true => cases query.logRendered <;> rfl

/-- Without the flag all steps are heard as they are with it. -/
theorem heard_quiet (session : Session) (step : Step) :
    session.quiet.heard step = session.heard step := by
  -- A configuration comes from the step alone, and where a text is made the flag is looked at.
  by_cases configures : step.action.configures = true
  · have same : session.quiet.reply step = session.reply step := by
      obtain ⟨source, target, action⟩ := step
      cases action with
      | reset => rw [reply_reset, reply_reset]
      | configure configuration => rw [reply_configure, reply_configure]
      | configureFrom document => simp only [reply_configureFrom, reply_configure]
      | _ => cases configures
    rw [heard_eq, heard_eq, same]
  · by_cases renders : step.action = .render
    · obtain ⟨source, target, action⟩ := step
      obtain rfl : action = .render := renders
      exact session.heard_render source target
    · rw [heard_eq, heard_eq, reply_quiet (Bool.eq_false_iff.mpr configures) renders,
        Traced.outcome_map, Traced.events_map, hushed, map_quiet_quiet]
      rfl

/-- The answer of a step that gives a configuration: the configuration, if it can be used. -/
theorem reply_given {configuration : Configuration}
    (given : step.action.given? = some configuration) :
    session.reply step = (fun builder : Builder => .configuration builder.configuration) <$>
      (Traced.silent (Builder.ofConfiguration configuration)).mapError Failure.refused := by
  obtain ⟨source, target, action⟩ := step
  cases action with
  | reset =>
    cases given
    rfl
  | configure configuration =>
    cases given
    exact session.reply_configure source target _
  | configureFrom document =>
    have parsed : Configuration.parse Toml.readDocument? document = .ok configuration := by
      cases outcome : Configuration.parse Toml.readDocument? document with
      | ok described =>
        simp only [Action.given?, outcome] at given
        cases given
        rfl
      | error error =>
        simp only [Action.given?, outcome] at given
        cases given
    -- The aliases are looked at twice, once for the document and once for the builder.
    have read : Configuration.ofToml document =
        configuration.validate >>= fun _ => pure configuration := by
      rw [Configuration.ofToml, Configuration.ofDocument, parsed]
      rfl
    rw [reply_configureFrom, read]
    cases validated : configuration.validate with
    | ok result => exact session.reply_configure source target configuration
    | error error =>
      rw [Builder.ofConfiguration, validated]
      rfl
  | _ => cases given

theorem configures_of_given {configuration : Configuration}
    (given : step.action.given? = some configuration) : step.action.configures = true := by
  obtain ⟨source, target, action⟩ := step
  cases action with
  | reset | configure _ | configureFrom _ => rfl
  | _ => cases given

theorem heard_given {configuration : Configuration}
    (given : step.action.given? = some configuration) :
    session.heard step = ((configuration.quiet.validate.mapError Failure.refused).map fun _ =>
      .configuration configuration.quiet, []) := by
  rw [heard_eq, reply_given given, Builder.ofConfiguration, configuration.validate_quiet]
  cases configuration.validate <;> rfl

theorem heard_alike {left right : Step} (session : Session) (alike : left.Alike right) :
    session.heard left = session.heard right := by
  cases alike with
  | same => rfl
  | given first second alike => rw [heard_given first, heard_given second, alike]

theorem changed_alike {left right : Step} (session : Session) (alike : left.Alike right)
    (answer : Except Failure Answer) :
    session.changed left answer = session.changed right answer := by
  cases alike with
  | same => rfl
  | given first second =>
    have mine := configures_of_given first
    have theirs := configures_of_given second
    unfold changed
    rw [mine, theirs, Action.makes_of_configures mine, Action.makes_of_configures theirs]
    rfl

variable {mine theirs : Step}

theorem heard_of_alike (sessions : left.quiet = right.quiet) (alike : mine.Alike theirs) :
    left.heard mine = right.heard theirs := by
  rw [← heard_quiet left, sessions, heard_quiet, heard_alike right alike]

theorem quiet_after_of_alike (sessions : left.quiet = right.quiet) (alike : mine.Alike theirs) :
    (left.after mine).quiet = (right.after theirs).quiet := by
  have answers : (left.answer mine).map Answer.quiet = (right.answer theirs).map Answer.quiet :=
    congrArg Prod.fst (heard_of_alike sessions alike)
  rw [after_eq, after_eq, quiet_changed, quiet_changed, sessions, answers, changed_alike _ alike]

/-- Two sessions that differ in the flag alone are heard alike, whatever they give the flag. -/
theorem hushed_answers_of_alike {mine theirs : List Step} (sessions : left.quiet = right.quiet)
    (alike : List.Forall₂ Step.Alike mine theirs) :
    (left.answers mine).map hushed = (right.answers theirs).map hushed := by
  induction alike generalizing left right with
  | nil => rfl
  | cons first rest induction =>
    have heard := heard_of_alike sessions first
    rw [answers, answers, List.map_cons, List.map_cons,
      induction (quiet_after_of_alike sessions first)]
    exact congrArg (· :: _) heard

/-- The flag of a query is that of the builder from which it began, whatever follows. -/
theorem hereditary_flag : Hereditary fun history query =>
    ∃ first rest, history = first :: rest ∧ first.step.action.begins = true ∧
      (∀ taken ∈ rest, taken.step.action.makes = true ∧ taken.step.action.begins = false) ∧
      query.logRendered = first.session.builder.configuration.logRendered where
  starts := by
    intro session step collection root query action started _
    refine ⟨⟨session, step⟩, [], rfl, by rw [action]; rfl, nofun, ?_⟩
    cases Builder.outcome_start_of_starting started
    rfl
  calls := by
    rintro session step call before after _ action _ _ called _
      ⟨first, rest, rfl, begins, further, flag⟩
    obtain ⟨-, rfl⟩ := Query.outcome_perform_eq_ok_iff.mp called
    refine ⟨first, _, rfl, begins, ?_, (before.logRendered_extended call).trans flag⟩
    exact List.forall_mem_append.mpr ⟨further, List.forall_mem_singleton.mpr
      ⟨Action.makes_of_call? action, Action.begins_of_call? action⟩⟩
  copies := by
    rintro session step query _ action _ _ ⟨first, rest, rfl, begins, further, flag⟩
    refine ⟨first, _, rfl, begins, List.forall_mem_append.mpr ⟨further, ?_⟩, flag⟩
    refine List.forall_mem_singleton.mpr ⟨?_, ?_⟩ <;> rw [action] <;> rfl

/-- A text is announced only where it is made, and it is the text that is answered. -/
theorem answer_of_rendered_mem {text : String} (announced : .rendered text ∈ session.events step) :
    step.action = .render ∧ session.answer step = .ok (.text text text) := by
  cases replied : session.answer step with
  | error failure =>
    have refused := refusal_of_answer replied
    generalize session.events step = events at announced refused
    cases refused with
    | unknown => cases List.mem_singleton.mp announced
    | unbuilt | other => cases announced
  | ok answer =>
    have recorded := record_of_answer replied
    generalize session.events step = events at announced recorded
    cases recorded with
    | starts => cases List.mem_singleton.mp announced
    | calls => obtain ⟨_, made⟩ | made := Query.eq_of_mem_record announced <;> cases made
    | renders action =>
      split at announced
      · cases List.mem_singleton.mp announced
        exact ⟨action, rfl⟩
      · cases announced
    | looks => cases announced

/-- The text of a complete query is given, and announced if the query has the flag. -/
theorem render_of_stored {slot : String} {query : Query}
    (stored : session.query? slot = some query) (complete : query.stage.isTerminal = true)
    (target : String) :
    session.answer ⟨slot, target, .render⟩ = .ok (.text query.text query.text) ∧
      session.events ⟨slot, target, .render⟩ =
        if query.logRendered then [.rendered query.text] else [] := by
  have answered : session.answer ⟨slot, target, .render⟩ = .ok (.text query.text query.text) :=
    (answer_render stored target).trans (if_pos complete)
  refine ⟨answered, ?_⟩
  rw [← events_reply, reply_render, get_of_stored stored, pure_bind, complete, query.announce_eq]
  cases query.logRendered <;> rfl

/-- The flag changes nothing but itself and the announcements.  A text is announced where it is
made, if the builder had the flag when the query began, and nowhere else. -/
theorem announcements_change_nothing_else :
    (∀ (left right : Session) (mine theirs : List Step), left.quiet = right.quiet →
      List.Forall₂ Step.Alike mine theirs →
        (left.answers mine).map hushed = (right.answers theirs).map hushed) ∧
    (∀ (steps : List Step) (slot : String) (query : Query),
      (Session.new.run steps).query? slot = some query →
        ∃ (earlier later : List Step) (start : Step) (rest : List Taken),
          steps = earlier ++ start :: later ∧ start.action.begins = true ∧
          derivation steps slot = ⟨Session.new.run earlier, start⟩ :: rest ∧
          (∀ taken ∈ rest, taken.step.action.makes = true ∧ taken.step.action.begins = false) ∧
          ∀ target : String, query.stage.isTerminal = true →
            (Session.new.run steps).answer ⟨slot, target, .render⟩ =
              .ok (.text query.text query.text) ∧
            (Session.new.run steps).events ⟨slot, target, .render⟩ =
              if (Session.new.run earlier).builder.configuration.logRendered then
                [.rendered query.text]
              else []) ∧
    ∀ (session : Session) (step : Step) (text : String), .rendered text ∈ session.events step →
      step.action = .render ∧ session.answer step = .ok (.text text text) := by
  refine ⟨fun _ _ _ _ => hushed_answers_of_alike, fun steps slot query stored => ?_,
    fun _ _ _ => answer_of_rendered_mem⟩
  obtain ⟨⟨before, start⟩, rest, history, begins, further, flag⟩ :=
    hereditary_flag.holds_derivation stored
  have member : ⟨before, start⟩ ∈ derivation steps slot := by
    rw [history]
    exact List.mem_cons_self
  obtain ⟨earlier, later, split, rfl⟩ := split_of_mem_derivation member
  refine ⟨earlier, later, start, rest, split, begins, history, further, fun target complete => ?_⟩
  rw [← flag]
  exact render_of_stored stored complete target

/-- Two sessions with other flags at each configuration.  A text is announced in the one that had
the flag when the query began, though the builder has lost it since. -/
theorem announcements_change_nothing_else_of_reconfigured :
    let start : Step := ⟨"q", "q", .start .digitalTwins none⟩
    let cap : Step := ⟨"q", "r", .call (.top 3)⟩
    let render : Step := ⟨"r", "r", .render⟩
    let reset : Step := ⟨"", "", .reset⟩
    let set : Step := ⟨"", "", .configure ⟨"twin", "relationship", true⟩⟩
    let read : Step := ⟨"", "", .configureFrom "log_rendered = true"⟩
    let mine : List Step := [set, start, reset, cap]
    let theirs : List Step := [reset, start, read, cap]
    Session.new.quiet = Session.new.quiet ∧ List.Forall₂ Step.Alike mine theirs ∧
    (Session.new.answers mine).map hushed = (Session.new.answers theirs).map hushed ∧
    (∃ query, (Session.new.run mine).query? "r" = some query ∧ query.stage.isTerminal = true ∧
      (Session.new.run mine).answer render = .ok (.text query.text query.text) ∧
      (Session.new.run mine).events render = [.rendered query.text]) ∧
    (Session.new.run theirs).events render = [] := by
  intro start cap render reset set read mine theirs
  obtain ⟨hushed, complete, -⟩ := announcements_change_nothing_else
  have described : read.action.given? = some ⟨"twin", "relationship", true⟩ := by decide +kernel
  have alike : List.Forall₂ Step.Alike mine theirs :=
    .cons (.given rfl rfl rfl) (.cons (.same start) (.cons (.given rfl described rfl)
      (.cons (.same cap) .nil)))
  refine ⟨rfl, alike, hushed _ _ mine theirs rfl alike, ?_, by decide +kernel⟩
  obtain ⟨query, stored, topped⟩ : ∃ query, (Session.new.run mine).query? "r" = some query ∧
      query.stage.isTerminal = true := ⟨_, rfl, rfl⟩
  obtain ⟨earlier, later, begun, rest, split, begins, -, -, rendered⟩ :=
    complete mine "r" query stored
  have first : earlier = [set] := by
    rcases earlier with _ | ⟨_, _ | ⟨_, more⟩⟩
    · rw [← show set = begun from (List.cons.inj split).1] at begins
      cases begins
    · exact congrArg (fun step => [step]) (List.cons.inj split).1.symm
    · have others : [reset, cap] = more ++ begun :: later :=
        (List.cons.inj (List.cons.inj split).2).2
      have member : begun ∈ [reset, cap] := others ▸ List.mem_append_right _ List.mem_cons_self
      rcases List.mem_pair.mp member with rfl | rfl <;> cases begins
  obtain ⟨answered, events⟩ := rendered "r" topped
  rw [first] at events
  exact ⟨query, stored, topped, answered, events⟩

end Session
end TwinGraph
