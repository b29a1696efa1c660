import TwinGraph.Proofs.Query.Demands

/-!
# Configurations

A builder is made only from a configuration both of whose roots are aliases.  A root alias is looked
at once when a configuration is taken, and not again when a query begins with it.  So it has to pass
just what an alias passes that is given to a query directly, and the two ways to begin a query come
to the same.  A document gives the parts that it has keys for, and a file gives what its text gives.
-/

namespace TwinGraph

theorem mapError_validateAlias_eq_ok_iff {ε : Type} {field text : String} {tell : QueryError → ε}
    {result : Unit} :
    (validateAlias field text).mapError tell = .ok result ↔ IsAlias text := by
  rw [mapError_eq_ok_iff]
  exact validateAlias_eq_ok_iff

theorem exists_invalidArgument_of_validateAlias {field text : String} {error : QueryError}
    (refused : validateAlias field text = .error error) :
    ∃ reason, error = .invalidArgument field reason := by
  rw [validateAlias_eq_check] at refused
  obtain ⟨earlier, demand, later, division, -, -, rfl⟩ := Demand.check_eq_error_iff.mp refused
  have listed : demand ∈ [Demand.usable field text] := division ▸ List.mem_append_right _ (by simp)
  obtain rfl := List.mem_singleton.mp listed
  exact ⟨aliasFault text, rfl⟩

namespace Configuration

variable {configuration : Configuration} {error : QueryError}

theorem validate_eq (configuration : Configuration) :
    configuration.validate =
      ((validateAlias "twin_alias" configuration.twinAlias).mapError asFault).bind fun _ =>
        (validateAlias "relationship_alias" configuration.relationshipAlias).mapError asFault :=
  rfl

theorem validate_eq_ok_iff {configuration : Configuration} {result : Unit} :
    configuration.validate = .ok result ↔
      IsAlias configuration.twinAlias ∧ IsAlias configuration.relationshipAlias := by
  simp only [validate_eq, bind_eq_ok_iff, mapError_validateAlias_eq_ok_iff, exists_const]

theorem mapError_asFault_eq_error_iff {field text : String} :
    (validateAlias field text).mapError asFault = .error error ↔
      ∃ reason, validateAlias field text = .error (.invalidArgument field reason) ∧
        error = .configuration (.unusable field reason) := by
  cases refused : validateAlias field text with
  | ok _ =>
    have mapped : (Except.ok () : Except QueryError Unit).mapError asFault = .ok () := rfl
    simp [mapped]
  | error cause =>
    obtain ⟨reason, rfl⟩ := exists_invalidArgument_of_validateAlias refused
    have mapped : (Except.error (.invalidArgument field reason) : Except QueryError Unit).mapError
        asFault = .error (.configuration (.unusable field reason)) := rfl
    simp [mapped, eq_comm (a := error)]

/-- The root of twins is looked at first, and that of relationships only if the first one passes. -/
theorem validate_eq_error_iff :
    configuration.validate = .error error ↔ ∃ field reason,
      (validateAlias "twin_alias" configuration.twinAlias =
          .error (.invalidArgument field reason) ∨
        validateAlias "twin_alias" configuration.twinAlias = .ok () ∧
          validateAlias "relationship_alias" configuration.relationshipAlias =
            .error (.invalidArgument field reason)) ∧
      error = .configuration (.unusable field reason) := by
  simp only [validate_eq, bind_eq_error_iff, mapError_asFault_eq_error_iff, mapError_eq_ok_iff]
  constructor
  · rintro (⟨reason, refused, rfl⟩ | ⟨_, passed, reason, refused, rfl⟩)
    · exact ⟨_, reason, .inl refused, rfl⟩
    · exact ⟨_, reason, .inr ⟨passed, refused⟩, rfl⟩
  · rintro ⟨field, reason, refused | ⟨passed, refused⟩, rfl⟩
    · obtain ⟨_, ⟨⟩⟩ := exists_invalidArgument_of_validateAlias refused
      exact .inl ⟨reason, refused, rfl⟩
    · obtain ⟨_, ⟨⟩⟩ := exists_invalidArgument_of_validateAlias refused
      exact .inr ⟨(), passed, reason, refused, rfl⟩

/-- A key has a value in a document, or it is missing and the value is the default. -/
def Given (entries : Toml.Entries) (key : String) (value fallback : Toml.Value) : Prop :=
  entries.get? key = some value ∨ entries.get? key = none ∧ value = fallback

/-- The keys of a document override the defaults of a configuration, and its other keys count for
nothing. -/
structure Overrides (entries : Toml.Entries) (configuration : Configuration) : Prop where
  twinAlias : Given entries "twin_alias" (.string configuration.twinAlias)
    (.string default.twinAlias)
  relationshipAlias : Given entries "relationship_alias"
    (.string configuration.relationshipAlias) (.string default.relationshipAlias)
  logRendered : Given entries "log_rendered" (.boolean configuration.logRendered)
    (.boolean default.logRendered)

/-- A part that is read off the values of one kind. -/
theorem optional_eq_some_iff {α : Type} {entries : Toml.Entries} {key : String}
    {read : Toml.Value → Option α} {kind : α → Toml.Value}
    (reads : ∀ value part, read value = some part ↔ value = kind part) {part fallback : α}
    (kind_inj : kind part = kind fallback ↔ part = fallback) :
    optional (entries.get? key) fallback read = some part ↔
      Given entries key (kind part) (kind fallback) := by
  unfold optional Given
  cases entries.get? key with
  | none => simp [kind_inj, eq_comm (a := fallback)]
  | some value => simp [reads]

theorem tomlString?_eq_some_iff (value : Toml.Value) (text : String) :
    tomlString? value = some text ↔ value = .string text := by
  cases value <;> simp [tomlString?]

theorem tomlBoolean?_eq_some_iff (value : Toml.Value) (flag : Bool) :
    tomlBoolean? value = some flag ↔ value = .boolean flag := by
  cases value <;> simp [tomlBoolean?]

theorem ofEntries?_eq_some_iff {entries : Toml.Entries} :
    ofEntries? entries = some configuration ↔ Overrides entries configuration := by
  obtain ⟨twinAlias, relationshipAlias, logRendered⟩ := configuration
  have twin := @optional_eq_some_iff _ entries "twin_alias" tomlString? .string
    tomlString?_eq_some_iff twinAlias default.twinAlias (by simp)
  have relationship := @optional_eq_some_iff _ entries "relationship_alias" tomlString? .string
    tomlString?_eq_some_iff relationshipAlias default.relationshipAlias (by simp)
  have flag := @optional_eq_some_iff _ entries "log_rendered" tomlBoolean? .boolean
    tomlBoolean?_eq_some_iff logRendered default.logRendered (by simp)
  simp only [ofEntries?, Option.bind_eq_bind, Option.bind_eq_some_iff, Option.some.injEq,
    Configuration.mk.injEq]
  constructor
  · rintro ⟨_, first, _, second, _, third, rfl, rfl, rfl⟩
    exact ⟨twin.mp first, relationship.mp second, flag.mp third⟩
  · rintro ⟨first, second, third⟩
    exact ⟨_, twin.mpr first, _, relationship.mpr second, _, flag.mpr third, rfl, rfl, rfl⟩

section

variable {read : String → Option Toml.Entries} {document : String}

theorem parse_eq_ok_iff :
    parse read document = .ok configuration ↔
      ∃ entries, read document = some entries ∧ Overrides entries configuration := by
  simp only [← ofEntries?_eq_some_iff]
  unfold parse
  cases read document with
  | none => simp
  | some entries =>
    simp only [Option.some.injEq, exists_eq_left']
    cases ofEntries? entries <;> simp

theorem ofDocument_eq_ok_iff :
    ofDocument read document = .ok configuration ↔
      parse read document = .ok configuration ∧ configuration.validate = .ok () := by
  have unfolded : ofDocument read document = (parse read document).bind fun parsed =>
      parsed.validate.bind fun _ => .ok parsed := rfl
  rw [unfolded, bind_eq_ok_iff]
  simp only [bind_eq_ok_iff, Except.ok.injEq]
  constructor
  · rintro ⟨_, parsed, ⟨⟩, validated, rfl⟩
    exact ⟨parsed, validated⟩
  · rintro ⟨parsed, validated⟩
    exact ⟨configuration, parsed, (), validated, rfl⟩

end

section

variable {path text : String} {found : Except String ByteArray} {fault : ReadFault}

theorem fromUTF8?_eq_some_iff {contents : ByteArray} :
    String.fromUTF8? contents = some text ↔ contents = text.toUTF8 := by
  unfold String.fromUTF8?
  constructor
  · intro decoded
    split at decoded
    · exact congrArg String.toUTF8 (Option.some.inj decoded)
    · cases decoded
  · rintro rfl
    exact dif_pos text.isValidUTF8

theorem readText_of_told (told : '\x00' ∉ path.toList) (contents : ByteArray) :
    readText path (.ok contents) = (String.fromUTF8? contents).elim (.error .notText) .ok := by
  rw [readText, if_neg told]
  cases decoded : String.fromUTF8? contents <;>
    simp [Except.mapError, bind, Except.bind, decoded]

/-- A file has a text if the system can be told its path and has the bytes of that text there. -/
theorem readText_eq_ok_iff :
    readText path found = .ok text ↔ '\x00' ∉ path.toList ∧ found = .ok text.toUTF8 := by
  by_cases terminated : '\x00' ∈ path.toList
  · simp [readText, terminated]
  · cases found with
    | error words =>
      rw [readText, if_neg terminated]
      exact iff_of_false nofun nofun
    | ok contents =>
      rw [readText_of_told terminated, Except.ok.injEq, ← fromUTF8?_eq_some_iff]
      cases String.fromUTF8? contents <;> simp [terminated]

/-- What keeps a file from having a text is looked for in the order in which it is read. -/
theorem readText_eq_error_iff :
    readText path found = .error fault ↔
      '\x00' ∈ path.toList ∧ fault = .terminatorInName ∨
      '\x00' ∉ path.toList ∧ ((∃ words, found = .error words ∧ fault = .system words) ∨
        ∃ contents, found = .ok contents ∧ String.fromUTF8? contents = none ∧
          fault = .notText) := by
  by_cases terminated : '\x00' ∈ path.toList
  · simp [readText, terminated, eq_comm (a := fault)]
  · cases found with
    | error words =>
      have refused : readText path (.error words) = .error (.system words) := by
        rw [readText, if_neg terminated]
        rfl
      simp [refused, terminated, eq_comm (a := fault)]
    | ok contents =>
      rw [readText_of_told terminated]
      cases decoded : String.fromUTF8? contents <;>
        simp [terminated, decoded, eq_comm (a := fault)]

theorem ofFile_of_read (read : readText path found = .ok text) :
    ofFile path found = ⟨ofToml text, [.loaded path]⟩ := by
  rw [ofFile, read]
  rfl

theorem ofFile_of_unreadable (unreadable : readText path found = .error fault) :
    ofFile path found = ⟨.error (.configuration (.unreadable path fault)), []⟩ := by
  rw [ofFile, unreadable]
  rfl

/-- A file gives a configuration just if its text does. -/
theorem outcome_ofFile_eq_ok_iff :
    (ofFile path found).outcome = .ok configuration ↔
      '\x00' ∉ path.toList ∧
        ∃ text : String, found = .ok text.toUTF8 ∧ ofToml text = .ok configuration := by
  simp only [← exists_and_left, ← and_assoc, ← readText_eq_ok_iff]
  cases read : readText path found with
  | ok text => simp [ofFile_of_read read]
  | error fault => simp [ofFile_of_unreadable read]

/-- That a file was read is told also of a text that gives no configuration. -/
theorem loaded_mem_events_iff :
    .loaded path ∈ (ofFile path found).events ↔
      '\x00' ∉ path.toList ∧ ∃ text : String, found = .ok text.toUTF8 := by
  simp only [← exists_and_left, ← readText_eq_ok_iff]
  cases read : readText path found with
  | ok text => simp [ofFile_of_read read]
  | error fault => simp [ofFile_of_unreadable read]

end

end Configuration

namespace Builder

variable {configuration : Configuration} {builder : Builder}

theorem ofConfiguration_eq (configuration : Configuration) :
    ofConfiguration configuration = configuration.validate.bind fun _ => .ok ⟨configuration⟩ :=
  rfl

theorem ofConfiguration_eq_ok_iff :
    ofConfiguration configuration = .ok builder ↔
      IsAlias configuration.twinAlias ∧ IsAlias configuration.relationshipAlias ∧
        builder = ⟨configuration⟩ := by
  simp only [ofConfiguration_eq, bind_eq_ok_iff, Configuration.validate_eq_ok_iff, exists_const,
    Except.ok.injEq, eq_comm (a := builder), and_assoc]

theorem Configured.isAlias_root (configured : builder.Configured) (collection : Collection) :
    IsAlias (builder.configuration.root collection) := by
  cases configured with
  | new => cases collection <;> decide +kernel
  | ofConfiguration made =>
    obtain ⟨twin, relationship, rfl⟩ := ofConfiguration_eq_ok_iff.mp made
    cases collection with
    | digitalTwins => exact twin
    | relationships => exact relationship

theorem exists_ofConfiguration_iff :
    (∃ made, ofConfiguration configuration = .ok made) ↔ configuration.validate = .ok () := by
  rw [Configuration.validate_eq_ok_iff]
  simp only [ofConfiguration_eq_ok_iff, ← and_assoc, exists_and_left, exists_eq, and_true]

theorem ofConfiguration_eq_error_iff {error : QueryError} :
    ofConfiguration configuration = .error error ↔ configuration.validate = .error error := by
  simp [ofConfiguration_eq, bind_eq_error_iff]

theorem exists_startAs_iff {collection : Collection} {root : String} :
    (∃ query, (builder.startAs collection root).outcome = .ok query) ↔ IsAlias root := by
  simp only [outcome_startAs_eq_ok_iff, exists_and_left]
  exact and_iff_left ⟨_, rfl⟩

/-- A root that can be used makes no difference to the query whichever way it comes, nor to what is
recorded. -/
theorem startAs_root (collection : Collection)
    (usable : IsAlias (builder.configuration.root collection)) :
    builder.startAs collection (builder.configuration.root collection) =
      builder.start collection := by
  have accepted := @validateAlias_eq_ok_iff "alias" (builder.configuration.root collection)
  rw [startAs, Traced.bind_of_ok _ (accepted.mpr usable)]
  rfl

end Builder
end TwinGraph
