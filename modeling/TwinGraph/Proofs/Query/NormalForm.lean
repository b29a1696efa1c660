import TwinGraph.Proofs.Query.Selection
import TwinGraph.Proofs.Text.Boundary

/-!
# The text of a complete query

Caps and a selection come in several orders, and each of them sees to the cap in its own way.  In
the end the projection depends on the calls in one way only: the last cap counts, and the entries
are those of the selection.  The clauses after it are there before the first of these calls.
-/

namespace TwinGraph

/-- The argument of a cap. -/
def Call.limit? : Call → Option UInt16
  | top limit => some limit
  | _ => none

/-- The argument of a selection. -/
def Call.entries? : Call → Option (List String)
  | select entries => some entries
  | _ => none

/-- The argument of the last cap among some calls. -/
def lastLimit (calls : List Call) : Option UInt16 :=
  (calls.filterMap Call.limit?).getLast?

/-- The entries that calls choose on a query with a root.  A selection drops blank entries if it is
the first call. -/
def chosenEntries (root : String) : List Call → List String
  | [] => [root]
  | .select entries :: _ => entries.filter fun entry => !Text.isBlank entry
  | _ :: rest => (rest.filterMap Call.entries?).headD [root]

/-- The text of the projection that calls give to a query with a root. -/
def projectionText (root : String) (calls : List Call) : String :=
  if .count ∈ calls.map Call.kind then "SELECT COUNT()"
  else
    "SELECT" ++ (lastLimit calls).elim "" (fun limit => " TOP(" ++ toString limit.toNat ++ ")") ++
      " " ++ ", ".intercalate (chosenEntries root calls)

/-- The text of the clauses after the projection. -/
def clausesText (origin : Origin) (joins : List Join) (condition : Option Condition) : String :=
  " ".intercalate (String.ofList origin.render :: joins.map (String.ofList ·.render) ++
    (condition.map fun condition => "WHERE " ++ condition.text).toList)

section

variable {calls : List Call}

theorem lastLimit_append_top (calls : List Call) (limit : UInt16) :
    lastLimit (calls ++ [.top limit]) = some limit := by
  simp [lastLimit, Call.limit?]

theorem lastLimit_append_select (calls : List Call) (entries : List String) :
    lastLimit (calls ++ [.select entries]) = lastLimit calls := by
  simp [lastLimit, Call.limit?]

theorem chosenEntries_append_top (root : String) (calls : List Call) (limit : UInt16) :
    chosenEntries root (calls ++ [.top limit]) = chosenEntries root calls := by
  cases calls with
  | nil => rfl
  | cons call rest => cases call <;> simp [chosenEntries, Call.entries?]

theorem filterMap_entries?_of_caps (caps : ∀ call ∈ calls, call.kind = .top) :
    calls.filterMap Call.entries? = [] := by
  refine List.filterMap_eq_nil_iff.mpr fun call member => ?_
  have kind := caps call member
  cases call with
  | top limit => rfl
  | _ => cases kind

theorem count_notMem_of_caps (caps : ∀ call ∈ calls, call.kind = .top) :
    .count ∉ calls.map Call.kind := by
  intro member
  obtain ⟨call, given, kind⟩ := List.mem_map.mp member
  cases (caps call given).symm.trans kind

theorem chosenEntries_of_caps (root : String) (caps : ∀ call ∈ calls, call.kind = .top) :
    chosenEntries root calls = [root] := by
  cases calls with
  | nil => rfl
  | cons call rest =>
    rw [List.forall_mem_cons] at caps
    cases call with
    | top limit => simp [chosenEntries, filterMap_entries?_of_caps caps.2]
    | _ => cases caps.1

/-- A selection after caps takes its entries as they are. -/
theorem chosenEntries_append_select (root : String) (nonempty : calls ≠ [])
    (caps : ∀ call ∈ calls, call.kind = .top) (entries : List String) :
    chosenEntries root (calls ++ [.select entries]) = entries := by
  obtain ⟨call, rest, rfl⟩ := List.exists_cons_of_ne_nil nonempty
  rw [List.forall_mem_cons] at caps
  cases call with
  | top limit => simp [chosenEntries, filterMap_entries?_of_caps caps.2, Call.entries?]
  | _ => cases caps.1

end

/-- The projection that calls give to a query with a root. -/
def projectionAfter (root : String) (calls : List Call) : Projection :=
  if .count ∈ calls.map Call.kind then .count
  else .select ⟨chosenEntries root calls, lastLimit calls⟩

/-- The calls without a join and a condition that lead to a stage. -/
def Stage.Follows (calls : List Call) : Stage → Prop
  | .base | .filtered => calls = []
  | .topped => calls ≠ [] ∧ ∀ call ∈ calls, call.kind = .top
  | .selected => .count ∉ calls.map Call.kind ∧ (calls.filterMap Call.entries?).length = 1
  | .counted => calls = [.count]

namespace Query

variable {query before after : Query} {calls : List Call}

/-- A query with a root to which calls gave its projection. -/
structure Normal (root : String) (calls : List Call) (query : Query) : Prop where
  root_eq : query.root = root
  projection_eq : query.projection = projectionAfter root calls
  follows : query.stage.Follows calls

namespace Normal

variable {root : String}

theorem eq_nil (normal : query.Normal root calls) (isOpen : query.stage.isOpen = true) :
    calls = [] := by
  have follows := normal.follows
  cases stage : query.stage with
  | base => rwa [stage] at follows
  | filtered => rwa [stage] at follows
  | _ =>
    rw [stage] at isOpen
    cases isOpen

theorem of_topped (normal : query.Normal root calls) (topped : query.stage = .topped) :
    calls ≠ [] ∧ ∀ call ∈ calls, call.kind = .top := by
  have follows := normal.follows
  rwa [topped] at follows

theorem of_selected (normal : query.Normal root calls) (selected : query.stage = .selected) :
    .count ∉ calls.map Call.kind ∧ (calls.filterMap Call.entries?).length = 1 := by
  have follows := normal.follows
  rwa [selected] at follows

theorem projection_of_uncounted (normal : query.Normal root calls)
    (uncounted : .count ∉ calls.map Call.kind) :
    query.projection = .select ⟨chosenEntries root calls, lastLimit calls⟩ :=
  normal.projection_eq.trans (if_neg uncounted)

/-- Before a selection there are only caps. -/
theorem caps_of_unselected (normal : query.Normal root calls)
    (unselected : query.stage ≠ .selected) (uncounted : query.stage ≠ .counted) :
    ∀ call ∈ calls, call.kind = .top := by
  by_cases topped : query.stage = .topped
  · exact (normal.of_topped topped).2
  · have isOpen : query.stage.isOpen = true := by
      cases stage : query.stage <;> simp_all [Stage.isOpen]
    simp [normal.eq_nil isOpen]

theorem select (normal : query.Normal root calls) (entries : List String)
    (offered : query.offers .select = true) :
    (query.extended (.select entries)).Normal root (calls ++ [.select entries]) := by
  by_cases topped : query.stage = .topped
  · obtain ⟨nonempty, caps⟩ := normal.of_topped topped
    have uncounted := count_notMem_of_caps caps
    have chosen : query.chosen entries = ⟨entries, lastLimit calls⟩ := by
      rw [Query.chosen, if_pos topped, normal.projection_of_uncounted uncounted]
      rfl
    refine ⟨normal.root_eq, ?_, ?_⟩
    · simp [extended, chosen, projectionAfter, uncounted, Call.kind,
        chosenEntries_append_select root nonempty caps, lastLimit_append_select]
    · simp [extended, Stage.Follows, uncounted, Call.kind, filterMap_entries?_of_caps caps,
        Call.entries?]
  · have isOpen : query.stage.isOpen = true := by simpa [offers, topped] using offered
    cases normal.eq_nil isOpen
    have chosen := chosen_of_isOpen isOpen entries
    refine ⟨normal.root_eq, ?_, ?_⟩
    · simp [extended, chosen, projectionAfter, chosenEntries, Call.kind, lastLimit, Call.limit?]
    · simp [extended, Stage.Follows, Call.kind, Call.entries?]

theorem top (normal : query.Normal root calls) (limit : UInt16)
    (offered : query.offers .top = true) :
    (query.extended (.top limit)).Normal root (calls ++ [.top limit]) := by
  by_cases selected : query.stage = .selected
  · obtain ⟨uncounted, single⟩ := normal.of_selected selected
    have shape : query.extended (.top limit) = { query with
        projection := .select ⟨chosenEntries root calls, some limit⟩ } := by
      rw [extended, capped, if_pos selected, normal.projection_of_uncounted uncounted]
      rfl
    rw [shape]
    refine ⟨normal.root_eq, ?_, ?_⟩
    · simp [projectionAfter, uncounted, Call.kind, chosenEntries_append_top, lastLimit_append_top]
    · simp [selected, Stage.Follows, uncounted, Call.kind, Call.entries?, single]
  · have caps := normal.caps_of_unselected selected (by simpa [offers] using offered)
    have shape : query.extended (.top limit) = { query with
        projection := .select ⟨[root], some limit⟩, stage := .topped } := by
      rw [extended, capped, if_neg selected, rootProjection, normal.root_eq]
    rw [shape]
    refine ⟨normal.root_eq, ?_, ?_⟩
    · simp [projectionAfter, count_notMem_of_caps caps, Call.kind, chosenEntries_append_top,
        chosenEntries_of_caps root caps, lastLimit_append_top]
    · simpa [Stage.Follows, Call.kind, or_imp, forall_and] using caps

theorem count (normal : query.Normal root calls) (offered : query.offers .count = true) :
    (query.extended .count).Normal root (calls ++ [.count]) := by
  cases normal.eq_nil offered
  exact ⟨normal.root_eq, rfl, rfl⟩

/-- At most one of the calls is a selection. -/
theorem length_entries_le (normal : query.Normal root calls) :
    (calls.filterMap Call.entries?).length ≤ 1 := by
  by_cases selected : query.stage = .selected
  · exact Nat.le_of_eq (normal.of_selected selected).2
  by_cases counted : query.stage = .counted
  · have follows := normal.follows
    rw [counted] at follows
    cases follows
    exact Nat.zero_le 1
  · simp [filterMap_entries?_of_caps (normal.caps_of_unselected selected counted)]

theorem extended (normal : query.Normal root calls) {call : Call}
    (completes : call.kind.completes = true) (offered : query.offers call.kind = true) :
    (query.extended call).Normal root (calls ++ [call]) := by
  cases call with
  | select entries => exact normal.select entries offered
  | top limit => exact normal.top limit offered
  | count => exact normal.count offered
  | _ => cases completes

end Normal

/-- A run of calls that complete a query leads to the projection that these calls tell. -/
theorem Reachable.normal_of_run (reached : before.Reachable)
    (isOpen : before.stage.isOpen = true)
    (completing : ∀ call ∈ calls, call.kind.completes = true)
    (made : before.run calls = .ok after) : after.Normal before.root calls := by
  have first : before.Normal before.root [] := by
    refine ⟨rfl, reached.shaped.projection_of_isOpen isOpen, ?_⟩
    cases stage : before.stage <;> simp [stage, Stage.isOpen, Stage.Follows] at isOpen ⊢
  refine @run_induction before after calls
    (fun calls query => (∀ call ∈ calls, call.kind.completes = true) →
      query.Normal before.root calls) (fun _ => first) ?_ made completing
  intro calls middle call _ normal offered _ completing
  rw [List.forall_mem_append, List.forall_mem_singleton] at completing
  exact (normal completing.1).extended completing.2 offered

theorem toList_topText (limit? : Option UInt16) :
    (limit?.elim "" fun limit => " TOP(" ++ toString limit.toNat ++ ")").toList =
      renderTop limit? := by
  cases limit? with
  | none => rfl
  | some limit =>
    have rendered : renderTop (some limit) =
        " TOP(".toList ++ (Nat.toDigits 10 limit.toNat ++ [')']) := rfl
    have closing : ")".toList = [')'] := by rfl
    simp only [Option.elim, rendered, String.toList_append, Nat.toString_eq_repr,
      Nat.toList_repr, closing, List.append_assoc]

theorem projectionText_eq (root : String) (calls : List Call) :
    projectionText root calls = String.ofList (projectionAfter root calls).render := by
  unfold projectionText projectionAfter
  split
  · rfl
  · have rendered (selection : Selection) : (Projection.select selection).render =
        "SELECT".toList ++ (renderTop selection.top ++
          ' ' :: [',', ' '].intercalate (selection.entries.map String.toList)) := rfl
    have space : " ".toList = [' '] := by rfl
    have comma : ", ".toList = [',', ' '] := by rfl
    apply String.toList_inj.mp
    simp only [rendered, String.toList_append, toList_topText, String.toList_intercalate, space,
      comma, String.toList_ofList, List.append_assoc, List.singleton_append]

theorem clausesText_eq (query : Query) :
    clausesText query.origin query.joins query.condition = String.ofList query.renderTail := by
  have space : " ".toList = [' '] := by rfl
  apply String.toList_inj.mp
  unfold clausesText renderTail
  cases query.condition with
  | none =>
    simp [String.toList_intercalate, Text.intercalate_cons, space, List.flatMap_map]
  | some condition =>
    have rendered : renderWhere condition.render = "WHERE ".toList ++ condition.render := rfl
    simp [String.toList_intercalate, Text.intercalate_cons, space, List.flatMap_map,
      Condition.text, rendered]

/-- The projection that calls make depends on the last cap and the entries of the one selection
only, in whatever order the calls came, and the clauses after it are those that were there before
the calls.  A session gives this text in both of its forms. -/
theorem text_of_run (before after : Query) (calls : List Call) (reached : before.Reachable)
    (isOpen : before.stage.isOpen = true)
    (completing : ∀ call ∈ calls, call.kind.completes = true)
    (made : before.run calls = .ok after) (terminal : after.stage.isTerminal = true) :
    after.text = projectionText before.root calls ++ " " ++
        clausesText before.origin before.joins before.condition ∧
      (calls.filterMap Call.entries?).length ≤ 1 ∧
      ∀ (session : Session) (slot target : String), session.query? slot = some after →
        session.answer ⟨slot, target, .render⟩ = .ok (.text after.text after.text) := by
  have normal := reached.normal_of_run isOpen completing made
  have kept := run_eq_of_completes completing made
  refine ⟨?_, normal.length_entries_le, fun session slot target stored => ?_⟩
  · have tail : after.renderTail = before.renderTail := by
      rw [kept]
      rfl
    rw [projectionText_eq, clausesText_eq, Query.text, render, normal.projection_eq, tail]
    simp [String.append_assoc]
  · rw [Session.answer_render stored, if_pos terminal]

/-- A selection between two caps on a query with a join and a condition. -/
theorem text_of_recapped :
    let condition := Condition.membership "room" "floor" .among ["1"]
    let first : Query := ⟨.base, "twin", ⟨.digitalTwins, "twin"⟩, ⟨["twin"]⟩, [], none,
      .select ⟨["twin"], none⟩, false⟩
    let before : Query := { first with
      stage := .filtered, scope := ⟨["twin", "room"]⟩
      joins := [⟨"room", "twin", "contains", none⟩], condition := some condition }
    let calls : List Call := [.top 5, .select ["room.name", "twin"], .top 65535]
    let after : Query := { before with
      stage := .selected, projection := .select ⟨["room.name", "twin"], some 65535⟩ }
    (before.Reachable ∧ before.stage.isOpen = true ∧
      (∀ call ∈ calls, call.kind.completes = true) ∧ before.run calls = .ok after ∧
      after.stage.isTerminal = true) ∧
    after.text = "SELECT TOP(65535) room.name, twin FROM DIGITALTWINS twin " ++
      "JOIN room RELATED twin.contains WHERE room.floor IN ['1']" := by
  intro condition first before calls after
  have begins : Begins .digitalTwins first := @Begins.start _ _ first .new rfl
  have earlier : first.run [.join ⟨"room", "twin", "contains", none⟩, .filter condition] =
      .ok before := by rfl
  have reached : before.Reachable := begins.reachable.run earlier
  have completing : ∀ call ∈ calls, call.kind.completes = true := by
    simp [calls, Call.kind, CallKind.completes]
  have made : before.run calls = .ok after := by rfl
  obtain ⟨text, -, -⟩ := text_of_run before after calls reached rfl completing made rfl
  refine ⟨⟨reached, rfl, completing, made, rfl⟩, text.trans ?_⟩
  rw [projectionText_eq, clausesText_eq]
  apply String.toList_inj.mp
  simp only [String.toList_append, String.toList_ofList]
  decide +kernel

end Query
end TwinGraph
