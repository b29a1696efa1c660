import TwinGraph.Proofs.Condition.Unambiguous

/-!
# The version of a model

A model is asked for in one version, whatever version its identifier names.  So all identifiers of
a model make the same test, the pinned one among them, and each of them is taken or refused for the
name of the model alone.
-/

namespace TwinGraph

open Text

namespace Condition

variable {identifier other : String}

theorem toList_versionedModel (identifier : String) :
    (versionedModel identifier).toList = (modelName identifier).toList ++ [';', '1'] := by
  rw [versionedModel, String.toList_ofList]
  rfl

theorem modelName_versionedModel (identifier : String) :
    modelName (versionedModel identifier) = modelName identifier := by
  have whole : ∀ character ∈ (modelName identifier).toList, (character != ';') = true :=
    bne_of_notMem (separator_notMem_firstPart ';' identifier)
  apply String.toList_inj.mp
  rw [toList_modelName, toList_versionedModel]
  exact takeWhile_append_of_stops whole (stops_cons.mpr rfl)

/-- What stands behind a semicolon is no part of the name, even if the identifier has a version
already. -/
theorem modelName_append (identifier further : String) :
    modelName (identifier ++ ";" ++ further) = modelName identifier := by
  apply String.toList_inj.mp
  rw [toList_modelName, toList_modelName, String.toList_append, String.toList_append,
    List.append_assoc]
  induction identifier.toList with
  | nil => rfl
  | cons character rest induction =>
    rw [List.cons_append, List.takeWhile_cons, List.takeWhile_cons, induction]

theorem count_versionedModel (identifier : String) :
    (versionedModel identifier).toList.count ';' = 1 := by
  have none : (modelName identifier).toList.count ';' = 0 :=
    List.count_eq_zero.mpr (separator_notMem_firstPart ';' identifier)
  rw [toList_versionedModel, List.count_append, none]
  rfl

theorem render_modelTest_eq_iff {qualifier : Option String} :
    render (modelTest qualifier identifier) = render (modelTest qualifier other) ↔
      modelName identifier = modelName other := by
  rw [← versionedModel_eq_iff]
  constructor
  · intro equal
    cases qualifier with
    | none =>
      rw [render_modelTest_none, render_modelTest_none] at equal
      have arguments := List.append_cancel_left equal
      exact (quote_append_inj (List.tail_eq_of_cons_eq arguments)).1
    | some qualifier =>
      rw [render_modelTest_some, render_modelTest_some] at equal
      have arguments := List.tail_eq_of_cons_eq (List.append_cancel_left equal)
      have literals := List.append_cancel_left arguments
      exact (quote_append_inj
        (List.tail_eq_of_cons_eq (List.tail_eq_of_cons_eq literals))).1
  · intro equal
    rw [render, render, equal]

theorem exists_isOfModel_iff {qualifier : Option String} :
    (∃ condition, isOfModel qualifier identifier = .ok condition) ↔
      isBlank (modelName identifier) = false := by
  simp only [isOfModel_eq_ok_iff, exists_and_left, exists_eq, and_true]

/-- Two tests of models with one alias have the same text exactly if the identifiers agree up to
their first semicolons.  The pinned identifier has one semicolon, before the version at its end, and
it makes the test again from which it came.  A version behind an identifier does not change whether
the identifier is taken. -/
theorem versions_are_pinned (qualifier : Option String) :
    (∀ first second condition other, isOfModel qualifier first = .ok condition →
      isOfModel qualifier second = .ok other →
        (condition.text = other.text ↔
          first.toList.takeWhile (· != ';') = second.toList.takeWhile (· != ';'))) ∧
    (∀ identifier condition, isOfModel qualifier identifier = .ok condition →
      (versionedModel identifier).toList.count ';' = 1 ∧
        [';', '1'] <:+ (versionedModel identifier).toList ∧
        versionedModel (versionedModel identifier) = versionedModel identifier ∧
        ∃ again, isOfModel qualifier (versionedModel identifier) = .ok again ∧
          again.text = condition.text) ∧
    ∀ identifier further, (∃ condition, isOfModel qualifier identifier = .ok condition) ↔
      ∃ condition, isOfModel qualifier (identifier ++ ";" ++ further) = .ok condition := by
  refine ⟨?_, ?_, ?_⟩
  · intro first second condition other made made'
    obtain ⟨-, rfl⟩ := isOfModel_eq_ok_iff.mp made
    obtain ⟨-, rfl⟩ := isOfModel_eq_ok_iff.mp made'
    rw [text_inj, render_modelTest_eq_iff, modelName_eq_iff]
  · intro identifier condition made
    obtain ⟨named, rfl⟩ := isOfModel_eq_ok_iff.mp made
    have pinned := modelName_versionedModel identifier
    refine ⟨count_versionedModel identifier, ?_, versionedModel_eq_iff.mpr pinned, ?_⟩
    · rw [toList_versionedModel]
      exact List.suffix_append _ _
    · refine ⟨_, isOfModel_eq_ok_iff.mpr ⟨?_, rfl⟩, ?_⟩
      · rw [pinned]
        exact named
      · exact text_inj.mpr (render_modelTest_eq_iff.mpr pinned)
  · intro identifier further
    rw [exists_isOfModel_iff, exists_isOfModel_iff, modelName_append]

/-- Two versions of a model whose name holds a quote, and a model in whose name a backslash stands
before the quote. -/
theorem versions_are_pinned_of_quoted :
    let versioned := modelTest (some "t") "dtmi:it's;2;\\"
    let bare := modelTest (some "t") "dtmi:it's"
    let escaped := modelTest (some "t") "dtmi:it\\'s;2"
    (isOfModel (some "t") "dtmi:it's;2;\\" = .ok versioned ∧
        isOfModel (some "t") "dtmi:it's" = .ok bare ∧
        isOfModel (some "t") "dtmi:it\\'s;2" = .ok escaped) ∧
      versioned.text = bare.text ∧ bare.text ≠ escaped.text ∧
      (versionedModel "dtmi:it's;2;\\").toList.count ';' = 1 ∧
      (∃ again, isOfModel (some "t") (versionedModel "dtmi:it's;2;\\") = .ok again ∧
        again.text = versioned.text) ∧
      ∃ condition, isOfModel (some "t") ("dtmi:it's" ++ ";" ++ "2;\\") = .ok condition := by
  intro versioned bare escaped
  have made : isOfModel (some "t") "dtmi:it's;2;\\" = .ok versioned :=
    isOfModel_eq_ok_iff.mpr ⟨by decide +kernel, rfl⟩
  have madeBare : isOfModel (some "t") "dtmi:it's" = .ok bare :=
    isOfModel_eq_ok_iff.mpr ⟨by decide +kernel, rfl⟩
  have madeEscaped : isOfModel (some "t") "dtmi:it\\'s;2" = .ok escaped :=
    isOfModel_eq_ok_iff.mpr ⟨by decide +kernel, rfl⟩
  obtain ⟨texts, pinned, versions⟩ := versions_are_pinned (some "t")
  obtain ⟨once, -, -, again⟩ := pinned _ _ made
  refine ⟨⟨made, madeBare, madeEscaped⟩, (texts _ _ _ _ made madeBare).mpr (by decide), ?_, once,
    again, (versions _ _).mp ⟨_, madeBare⟩⟩
  intro equal
  have names := (texts _ _ _ _ madeBare madeEscaped).mp equal
  exact absurd names (by decide)

end Condition
end TwinGraph
