import TwinGraph.Proofs.Session.Answers
import TwinGraph.Proofs.Session.Reply

/-!
# Sessions keep their slots apart

A step that fails changes nothing, and one that succeeds changes its own slot or the builder.  What
a step answers depends on the slots that it reads.  So parties that do not store where the other
one reads get the same answers and leave the same queries in whatever order they take turns.
-/

namespace TwinGraph

theorem Party.eq_other_iff {party other : Party} : other = party.other ↔ other ≠ party := by
  cases party <;> cases other <;> simp [Party.other]

namespace Turn

variable {party : Party} {turn : Turn} {rest : List Turn}

theorem stepsOf_cons : stepsOf party (turn :: rest) =
    if turn.party = party then turn.step :: stepsOf party rest else stepsOf party rest := by
  by_cases mine : turn.party = party <;> simp [stepsOf, mine]

theorem answersOf_cons {session : Session} : answersOf party session (turn :: rest) =
    if turn.party = party then
      (session.answer turn.step, session.events turn.step) ::
        answersOf party (session.after turn.step) rest
    else answersOf party (session.after turn.step) rest := by
  by_cases mine : turn.party = party <;> simp [answersOf, Session.answers, mine]

end Turn

namespace Session

variable {session other : Session} {step : Step} {steps : List Step} {answer : Answer}
  {slot : String} {visible : String → Prop}

theorem builder_after (configures : step.action.configures = false) :
    (session.after step).builder = session.builder := by
  rw [after_eq]
  unfold changed
  split
  · split <;> rfl
  · rw [configures]
    rfl
  · rfl

theorem slots_after (configures : step.action.configures = true) :
    (session.after step).slots = session.slots := by
  have makes := Action.makes_of_configures configures
  rw [after_eq]
  unfold changed
  split
  · rw [makes]
    rfl
  · split <;> rfl
  · rfl

/-- Whether two sessions have one builder and the same queries in the slots that are visible. -/
structure AgreeOn (visible : String → Prop) (session other : Session) : Prop where
  builder : session.builder = other.builder
  query? : ∀ slot, visible slot → session.query? slot = other.query? slot

namespace AgreeOn

theorem refl (session : Session) : AgreeOn visible session session :=
  ⟨rfl, fun _ _ => rfl⟩

theorem trans {last : Session} (first : AgreeOn visible session other)
    (second : AgreeOn visible other last) : AgreeOn visible session last where
  builder := first.builder.trans second.builder
  query? := fun slot seen => (first.query? slot seen).trans (second.query? slot seen)

theorem symm (agree : AgreeOn visible session other) : AgreeOn visible other session where
  builder := agree.builder.symm
  query? := fun slot seen => (agree.query? slot seen).symm

theorem reply_eq (agree : AgreeOn visible session other)
    (reads : ∀ slot ∈ step.reads, visible slot) : session.reply step = other.reply step :=
  reply_congr agree.builder fun slot member => agree.query? slot (reads slot member)

theorem answer_eq (agree : AgreeOn visible session other)
    (reads : ∀ slot ∈ step.reads, visible slot) : session.answer step = other.answer step := by
  rw [← outcome_reply, agree.reply_eq reads, outcome_reply]

theorem events_eq (agree : AgreeOn visible session other)
    (reads : ∀ slot ∈ step.reads, visible slot) : session.events step = other.events step := by
  rw [← events_reply, agree.reply_eq reads, events_reply]

/-- The sessions get the same answer, and the answer of a step tells all that it changes. -/
theorem after (agree : AgreeOn visible session other)
    (reads : ∀ slot ∈ step.reads, visible slot) :
    AgreeOn visible (session.after step) (other.after step) := by
  rw [after_eq, after_eq, ← agree.answer_eq reads]
  unfold changed
  split
  · split
    · refine ⟨agree.builder, fun slot seen => ?_⟩
      rw [query?_put, query?_put, agree.query? slot seen]
    · exact agree
  · split
    · exact ⟨rfl, agree.query?⟩
    · exact agree
  · exact agree

theorem run (agree : AgreeOn visible session other)
    (reads : ∀ step ∈ steps, ∀ slot ∈ step.reads, visible slot) :
    AgreeOn visible (session.run steps) (other.run steps) := by
  induction steps generalizing session other with
  | nil => exact agree
  | cons step rest induction =>
    rw [List.forall_mem_cons] at reads
    exact induction (agree.after reads.1) reads.2

theorem answers_eq (agree : AgreeOn visible session other)
    (reads : ∀ step ∈ steps, ∀ slot ∈ step.reads, visible slot) :
    session.answers steps = other.answers steps := by
  induction steps generalizing session other with
  | nil => rfl
  | cons step rest induction =>
    rw [List.forall_mem_cons] at reads
    rw [answers, answers, agree.answer_eq reads.1, agree.events_eq reads.1,
      induction (agree.after reads.1) reads.2]

end AgreeOn

theorem answers_append (session : Session) (earlier later : List Step) :
    session.answers (earlier ++ later) =
      session.answers earlier ++ (session.run earlier).answers later := by
  induction earlier generalizing session with
  | nil => rfl
  | cons step rest induction =>
    rw [List.cons_append, answers, induction, answers]
    rfl

/-- Whether none of the steps takes a builder, stores in one of the slots that are kept or stores
where a reader reads. -/
def Spare (steps readers : List Step) (kept : List String) : Prop :=
  ∀ step ∈ steps, step.action.configures = false ∧
    ∀ slot ∈ step.writes, slot ∉ kept ∧ ∀ reader ∈ readers, slot ∉ reader.reads

/-- Whether a slot is kept or read by one of the readers. -/
def Concerns (readers : List Step) (kept : List String) (slot : String) : Prop :=
  slot ∈ kept ∨ ∃ reader ∈ readers, slot ∈ reader.reads

theorem Spare.of_apart {readers : List Step} {kept : List String}
    (configures : ∀ step ∈ steps, step.action.configures = false)
    (apart : ∀ step ∈ steps, ∀ reader ∈ readers, step.Apart reader)
    (untouched : ∀ step ∈ steps, ∀ slot ∈ step.writes, slot ∉ kept) :
    Spare steps readers kept := by
  refine fun step member => ⟨configures step member, fun slot written => ?_⟩
  refine ⟨untouched step member slot written, fun reader reads read => ?_⟩
  exact (apart step member reader reads).1 slot written (List.mem_append_left _ read)

theorem Spare.agreeOn_after {readers : List Step} {kept : List String}
    (spare : Spare steps readers kept) (member : step ∈ steps) (session : Session) :
    AgreeOn (Concerns readers kept) (session.after step) session where
  builder := builder_after (spare step member).1
  query? := by
    intro slot concerned
    refine query?_after fun written => ?_
    obtain ⟨elsewhere, unread⟩ := (spare step member).2 slot written
    rcases concerned with found | ⟨reader, reads, read⟩
    · exact elsewhere found
    · exact unread reader reads read

theorem Spare.agreeOn_run {readers : List Step} {kept : List String}
    (spare : Spare steps readers kept) (session : Session) :
    AgreeOn (Concerns readers kept) (session.run steps) session := by
  induction steps generalizing session with
  | nil => exact .refl session
  | cons step rest induction =>
    have later : Spare rest readers kept :=
      fun other member => spare other (List.mem_cons_of_mem _ member)
    exact (induction later _).trans (spare.agreeOn_after List.mem_cons_self session)

theorem agreeOn_of_spare {party : Party} {turns : List Turn} {readers : List Step}
    {kept : List String} (agree : AgreeOn (Concerns readers kept) session other)
    (own : Turn.stepsOf party turns ⊆ readers)
    (spare : Spare (Turn.stepsOf party.other turns) readers kept) :
    Turn.answersOf party session turns = other.answers (Turn.stepsOf party turns) ∧
      AgreeOn (Concerns readers kept) (session.run (turns.map Turn.step))
        (other.run (Turn.stepsOf party turns)) := by
  induction turns generalizing session other with
  | nil => exact ⟨rfl, agree⟩
  | cons turn rest induction =>
    rw [Turn.stepsOf_cons] at own spare
    rw [Turn.stepsOf_cons, Turn.answersOf_cons]
    -- A turn of the party keeps the sessions in agreement, and one of the other party changes
    -- nothing that the party reads or that is kept.
    by_cases mine : turn.party = party
    · have theirs : turn.party ≠ party.other := fun other => Party.eq_other_iff.mp other mine
      rw [if_pos mine, List.cons_subset] at own
      rw [if_neg theirs] at spare
      have reads : ∀ slot ∈ turn.step.reads, Concerns readers kept slot :=
        fun _ read => .inr ⟨turn.step, own.1, read⟩
      obtain ⟨answers, agrees⟩ := induction (agree.after reads) own.2 spare
      rw [if_pos mine, if_pos mine, answers, Session.answers, agree.answer_eq reads,
        agree.events_eq reads]
      exact ⟨rfl, agrees⟩
    · have theirs : turn.party = party.other := Party.eq_other_iff.mpr mine
      rw [if_neg mine] at own
      rw [if_pos theirs] at spare
      have unseen := (spare.agreeOn_after List.mem_cons_self session).trans agree
      rw [if_neg mine, if_neg mine]
      exact induction unseen own fun step member => spare step (List.mem_cons_of_mem _ member)

/-- A party goes on as if it were alone if the other one spares what it reads. -/
theorem alone_of_spare (session : Session) (party : Party) {turns : List Turn} {kept : List String}
    (spare : Spare (Turn.stepsOf party.other turns) (Turn.stepsOf party turns) kept) :
    Turn.answersOf party session turns = session.answers (Turn.stepsOf party turns) ∧
      AgreeOn (Concerns (Turn.stepsOf party turns) kept) (session.run (turns.map Turn.step))
        (session.run (Turn.stepsOf party turns)) :=
  agreeOn_of_spare (.refl session) (List.Subset.refl _) spare

/-- Two parties that are apart get what they get one after the other. -/
theorem turns_agree {turns : List Turn}
    (first : ∀ step ∈ Turn.stepsOf .first turns, step.action.configures = false)
    (second : ∀ step ∈ Turn.stepsOf .second turns, step.action.configures = false)
    (apart : ∀ step ∈ Turn.stepsOf .first turns, ∀ other ∈ Turn.stepsOf .second turns,
      step.Apart other) :
    session.answers (Turn.stepsOf .first turns ++ Turn.stepsOf .second turns) =
        Turn.answersOf .first session turns ++ Turn.answersOf .second session turns ∧
      ∀ slot, (session.run (turns.map Turn.step)).query? slot =
        (session.run (Turn.stepsOf .first turns ++ Turn.stepsOf .second turns)).query? slot := by
  have apart' : ∀ other ∈ Turn.stepsOf .second turns, ∀ step ∈ Turn.stepsOf .first turns,
      other.Apart step := fun other theirs step mine => (apart step mine other theirs).symm
  have reads {steps : List Step} {kept : List String} :
      ∀ step ∈ steps, ∀ slot ∈ step.reads, Concerns steps kept slot :=
    fun step member _ read => .inr ⟨step, member, read⟩
  constructor
  · have spared : Spare (Turn.stepsOf .first turns) (Turn.stepsOf .second turns) [] :=
      .of_apart first apart fun _ _ _ _ => List.not_mem_nil
    have spared' : Spare (Turn.stepsOf .second turns) (Turn.stepsOf .first turns) [] :=
      .of_apart second apart' fun _ _ _ _ => List.not_mem_nil
    have later := (spared.agreeOn_run session).answers_eq reads
    rw [answers_append, later, (alone_of_spare session .first spared').1,
      (alone_of_spare session .second spared).1]
  · intro slot
    rw [run_append]
    -- Only one party stores in a slot, and it leaves there what it leaves alone.
    by_cases written : ∃ other ∈ Turn.stepsOf .second turns, slot ∈ other.writes
    · obtain ⟨other, theirs, stored⟩ := written
      have spared : Spare (Turn.stepsOf .first turns) (Turn.stepsOf .second turns) [slot] := by
        refine .of_apart first apart fun step mine target found kept => ?_
        obtain rfl : target = slot := List.mem_singleton.mp kept
        exact (apart step mine other theirs).1 target found (List.mem_append_right _ stored)
      have alone := (alone_of_spare session .second spared).2
      have later := (spared.agreeOn_run session).run reads
      exact (alone.trans later.symm).query? slot (.inl (List.mem_singleton.mpr rfl))
    · have spared : Spare (Turn.stepsOf .second turns) (Turn.stepsOf .first turns) [slot] := by
        refine .of_apart second apart' fun other theirs target found kept => ?_
        obtain rfl : target = slot := List.mem_singleton.mp kept
        exact written ⟨other, theirs, found⟩
      have alone := (alone_of_spare session .first spared).2
      have later := spared.agreeOn_run (session.run (Turn.stepsOf .first turns))
      exact (alone.trans later.symm).query? slot (.inl (List.mem_singleton.mpr rfl))

/-- A step that fails leaves all as it was.  One that succeeds changes the builder alone or its
target alone.  So two parties that do not store where the other one reads or stores get the same
answers and leave the same queries when they take turns as one after the other. -/
theorem steps_keep_to_their_slots :
    (∀ (session : Session) (step : Step) (failure : Failure),
      session.answer step = .error failure → session.after step = session) ∧
    (∀ (session : Session) (step : Step) (answer : Answer), session.answer step = .ok answer →
      (step.action.configures = true → (session.after step).slots = session.slots) ∧
      (step.action.configures = false → (session.after step).builder = session.builder ∧
        ∀ slot, slot ≠ step.target ∨ step.action.makes = false →
          (session.after step).query? slot = session.query? slot)) ∧
    ∀ (session : Session) (first second : List Step) (turns : List Turn),
      Turn.stepsOf .first turns = first → Turn.stepsOf .second turns = second →
      (∀ step ∈ first ++ second, step.action.configures = false) →
      (∀ step ∈ first, ∀ other ∈ second, step.Apart other) →
        session.answers (first ++ second) =
          Turn.answersOf .first session turns ++ Turn.answersOf .second session turns ∧
        ∀ slot, (session.run (turns.map Turn.step)).query? slot =
          (session.run (first ++ second)).query? slot := by
  refine ⟨fun _ _ _ => after_of_error, fun session step answer _ => ⟨slots_after, ?_⟩, ?_⟩
  · intro configures
    refine ⟨builder_after configures, fun slot untouched => query?_after ?_⟩
    rcases untouched with elsewhere | idle
    · unfold Step.writes
      split <;> simp [elsewhere]
    · simp [Step.writes, idle]
  · rintro session first second turns rfl rfl configures apart
    rw [List.forall_mem_append] at configures
    exact turns_agree configures.1 configures.2 apart

/-- Steps that are refused halfway: a join by its second alias, a condition by its second leaf and
a selection by its second entry.  Then two parties grow queries from the same one in turns. -/
theorem steps_keep_to_their_slots_of_siblings :
    let steps : List Step := [⟨"q", "q", .start .digitalTwins none⟩,
      ⟨"q", "q", .call (.join ⟨"room", "twin", "contains", none⟩)⟩]
    let session := Session.new.run steps
    let join : Step := ⟨"q", "q", .call (.join ⟨"desk", "room", "holds", some "room"⟩)⟩
    let filter : Step := ⟨"q", "q", .filter (.ok (.group .conjunction
      [.membership "room" "floor" .among ["1"], .membership "hall" "floor" .among ["1"]]))⟩
    let select : Step := ⟨"q", "q", .call (.select ["room.name", "hall"])⟩
    let configure : Step := ⟨"q", "q", .configure ⟨"asset", "edge", true⟩⟩
    let first : List Step := [⟨"q", "joined", .call (.join ⟨"desk", "room", "holds", none⟩)⟩,
      ⟨"joined", "joined", .call (.select ["desk"])⟩]
    let second : List Step := [⟨"q", "capped", .call (.top 3)⟩,
      ⟨"capped", "capped", .call (.select ["desk"])⟩]
    let turns : List Turn := [⟨.second, ⟨"q", "capped", .call (.top 3)⟩⟩,
      ⟨.first, ⟨"q", "joined", .call (.join ⟨"desk", "room", "holds", none⟩)⟩⟩,
      ⟨.second, ⟨"capped", "capped", .call (.select ["desk"])⟩⟩,
      ⟨.first, ⟨"joined", "joined", .call (.select ["desk"])⟩⟩]
    (session.answer join = .error (.refused (.duplicateAlias "room")) ∧
      session.after join = session) ∧
    (session.answer filter = .error (.refused (.unknownAlias "hall" ["twin", "room"])) ∧
      session.after filter = session) ∧
    (session.answer select = .error (.refused (.unknownAlias "hall" ["twin", "room"])) ∧
      session.after select = session) ∧
    (session.answer configure = .ok (.configuration ⟨"asset", "edge", true⟩) ∧
      (session.after configure).slots = session.slots) ∧
    Turn.stepsOf .first turns = first ∧ Turn.stepsOf .second turns = second ∧
    (∀ step ∈ first ++ second, step.action.configures = false) ∧
    (∀ step ∈ first, ∀ other ∈ second, step.Apart other) ∧
    session.answers (first ++ second) =
      Turn.answersOf .first session turns ++ Turn.answersOf .second session turns ∧
    (session.run (turns.map Turn.step)).query? "joined" =
      (session.run (first ++ second)).query? "joined" := by
  intro steps session join filter select configure first second turns
  obtain ⟨refused, succeeded, inTurns⟩ := steps_keep_to_their_slots
  have joinRefused : session.answer join = .error (.refused (.duplicateAlias "room")) := by rfl
  have filterRefused : session.answer filter =
      .error (.refused (.unknownAlias "hall" ["twin", "room"])) := by rfl
  have selectRefused : session.answer select =
      .error (.refused (.unknownAlias "hall" ["twin", "room"])) := by rfl
  have configured : session.answer configure = .ok (.configuration ⟨"asset", "edge", true⟩) := by
    rfl
  have noBuilder : ∀ step ∈ first ++ second, step.action.configures = false := by decide
  have apart : ∀ step ∈ first, ∀ other ∈ second, step.Apart other := by
    simp [first, second, Step.Apart, Step.reads, Step.writes, Action.makes]
  obtain ⟨answers, slots⟩ := inTurns session first second turns rfl rfl noBuilder apart
  exact ⟨⟨joinRefused, refused session join _ joinRefused⟩,
    ⟨filterRefused, refused session filter _ filterRefused⟩,
    ⟨selectRefused, refused session select _ selectRefused⟩,
    ⟨configured, (succeeded session configure _ configured).1 rfl⟩, rfl, rfl, noBuilder, apart,
    answers, slots "joined"⟩

end Session
end TwinGraph
