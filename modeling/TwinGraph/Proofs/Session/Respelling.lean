import TwinGraph.Proofs.Configuration
import TwinGraph.Proofs.Session.Stored

/-!
# Roots left out and roots spelled out

A query may begin with the configured alias, or with that alias given by name.  Two runs of a
session that differ in nothing else answer the same, record the same and end in the same session,
since the builder of a session has always been looked at.
-/

namespace TwinGraph

namespace Session

variable {session : Session} {step : Step} {steps others : List Step}

/-- Steps that differ from others only in that they name configured roots which the others leave
out. -/
inductive Respells : Session → List Step → List Step → Prop where
  | nil {session : Session} : Respells session [] []
  /-- The same step stands on both sides. -/
  | same {session : Session} {step : Step} {rest others : List Step}
    (later : Respells (session.after step) rest others) :
    Respells session (step :: rest) (step :: others)
  /-- A query begins on both sides, and on one of them its root is spelled out. -/
  | root {session : Session} {source target : String} {collection : Collection}
    {rest others : List Step}
    (later : Respells (session.after ⟨source, target, .start collection none⟩) rest others) :
    Respells session (⟨source, target, .start collection none⟩ :: rest)
      (⟨source, target, .start collection
        (some (session.builder.configuration.root collection))⟩ :: others)

theorem configured_after (configured : session.builder.Configured) :
    (session.after step).builder.Configured := by
  cases replied : session.answer step with
  | error failure =>
    rw [after_of_error replied]
    exact configured
  | ok answer =>
    have does := does_of_answer replied
    generalize session.after step = next at does
    cases does with
    | takes _ taken => exact taken
    | starts | calls | copies | looks => exact configured

/-- A configured root has been looked at, so naming it cannot be refused. -/
theorem perform_root (configured : session.builder.Configured) (source target : String)
    (collection : Collection) :
    session.perform ⟨source, target, .start collection none⟩ =
      session.perform ⟨source, target, .start collection
        (some (session.builder.configuration.root collection))⟩ := by
  rw [perform_start, perform_start]
  apply congrArg (session.store target)
  exact (Builder.startAs_root collection (configured.isAlias_root collection)).symm

/-- Whether two runs of a session answer and record the same and end in the same session. -/
def Agree (session : Session) (steps others : List Step) : Prop :=
  session.answers steps = session.answers others ∧ session.run steps = session.run others

/-- Runs that begin with steps that do the same agree if they agree from there on. -/
theorem agree_cons {other : Step} (performed : session.perform step = session.perform other)
    (later : (session.after step).Agree steps others) :
    session.Agree (step :: steps) (other :: others) := by
  have after_eq : session.after step = session.after other := by rw [after, after, performed]
  have answer_eq : session.answer step = session.answer other := by rw [answer, answer, performed]
  have events_eq : session.events step = session.events other := by rw [events, events, performed]
  obtain ⟨answers_eq, run_eq⟩ := later
  constructor
  · rw [answers, answers, answer_eq, events_eq, answers_eq, after_eq]
  · rw [run, run, List.foldl_cons, List.foldl_cons, ← after_eq]
    exact run_eq

theorem Respells.agree (respelled : session.Respells steps others)
    (configured : session.builder.Configured) : session.Agree steps others := by
  induction respelled with
  | nil => exact ⟨rfl, rfl⟩
  | same _ induction =>
    apply agree_cons
    · rfl
    · exact induction (configured_after configured)
  | root _ induction =>
    apply agree_cons
    · exact perform_root configured _ _ _
    · exact induction (configured_after configured)

end Session

namespace Builder

/-- A configuration is taken just if queries can begin with its roots by name, and then it makes no
difference whether a root is named, not even to what later steps lead to.  A configuration that is
not taken is refused for the first of its roots, in the words in which that root is refused by
itself.  However documents are read, a document gives just the configurations that are taken. -/
theorem roots_configured_or_named (configuration : Configuration) :
    (∀ builder : Builder,
      (∃ made, ofConfiguration configuration = .ok made) ↔
        (∃ query,
          (builder.startAs .digitalTwins configuration.twinAlias).outcome = .ok query) ∧
        ∃ query,
          (builder.startAs .relationships configuration.relationshipAlias).outcome = .ok query) ∧
    (∀ made, ofConfiguration configuration = .ok made →
      (∀ collection,
        made.startAs collection (configuration.root collection) = made.start collection ∧
        ∃ query, (made.start collection).outcome = .ok query) ∧
      ∀ (session : Session) (steps others : List Step), session.builder = made →
        session.Respells steps others → session.Agree steps others) ∧
    (∀ error, ofConfiguration configuration = .error error ↔ ∃ field reason,
      (validateAlias "twin_alias" configuration.twinAlias =
          .error (.invalidArgument field reason) ∨
        validateAlias "twin_alias" configuration.twinAlias = .ok () ∧
          validateAlias "relationship_alias" configuration.relationshipAlias =
            .error (.invalidArgument field reason)) ∧
      error = .configuration (.unusable field reason) ∧
      (ConfigurationFault.unusable field reason).message =
        (QueryError.invalidArgument field reason).message) ∧
    ∀ (read : String → Option Toml.Entries) (document : String),
      Configuration.ofDocument read document = .ok configuration ↔
        ∃ entries, read document = some entries ∧
          Configuration.Overrides entries configuration ∧
          ∃ made, ofConfiguration configuration = .ok made := by
  refine ⟨fun builder => ?_, fun made taken => ⟨fun collection => ?_, ?_⟩, fun error => ?_,
    fun read document => ?_⟩
  · rw [exists_ofConfiguration_iff, Configuration.validate_eq_ok_iff, exists_startAs_iff,
      exists_startAs_iff]
  · have usable := (Configured.ofConfiguration taken).isAlias_root collection
    obtain ⟨-, -, rfl⟩ := ofConfiguration_eq_ok_iff.mp taken
    exact ⟨startAs_root collection usable, _, rfl⟩
  · rintro session steps others rfl respelled
    exact respelled.agree (.ofConfiguration taken)
  · have worded (field : String) (reason : Reason) :
        (ConfigurationFault.unusable field reason).message =
          (QueryError.invalidArgument field reason).message := rfl
    simp only [worded, and_true]
    rw [ofConfiguration_eq_error_iff, Configuration.validate_eq_error_iff]
  · rw [Configuration.ofDocument_eq_ok_iff, Configuration.parse_eq_ok_iff,
      exists_ofConfiguration_iff]
    simp only [exists_and_right, ← and_assoc]

/-- A document gives one root.  A root that is a word of the query language is refused. -/
theorem roots_configured_or_named_of_short_root :
    let configuration : Configuration := ⟨"t", "relationship", false⟩
    let session : Session := ⟨⟨configuration⟩, []⟩
    let later : List Step := [⟨"q", "q", .call (.top 1)⟩, ⟨"q", "q", .render⟩]
    let omitted : List Step := ⟨"q", "q", .start .digitalTwins none⟩ :: later
    let named : List Step := ⟨"q", "q", .start .digitalTwins (some "t")⟩ :: later
    ofConfiguration configuration = .ok ⟨configuration⟩ ∧ session.Respells omitted named ∧
      session.answers omitted = session.answers named ∧
      Configuration.ofToml "twin_alias = 't'" = .ok configuration ∧
      (∃ entries, Toml.readDocument? "twin_alias = 't'" = some entries ∧
        Configuration.Overrides entries configuration) ∧
      ofConfiguration ⟨"t", "Top", false⟩ =
        .error (.configuration (.unusable "relationship_alias" (.reservedWord "Top"))) := by
  intro configuration session later omitted named
  have taken : ofConfiguration configuration = .ok ⟨configuration⟩ := by decide +kernel
  have respelled : session.Respells omitted named := .root (.same (.same .nil))
  have given : Configuration.ofToml "twin_alias = 't'" = .ok configuration := by decide +kernel
  obtain ⟨-, made, -, documents⟩ := roots_configured_or_named configuration
  obtain ⟨-, -, refused, -⟩ := roots_configured_or_named ⟨"t", "Top", false⟩
  obtain ⟨entries, read, overrides, -⟩ := (documents Toml.readDocument? _).mp given
  refine ⟨taken, respelled, ((made _ taken).2 session omitted named rfl respelled).1, given,
    ⟨entries, read, overrides⟩, (refused _).mpr ?_⟩
  exact ⟨"relationship_alias", .reservedWord "Top",
    .inr ⟨by decide +kernel, by decide +kernel⟩, rfl, rfl⟩

end Builder
end TwinGraph
