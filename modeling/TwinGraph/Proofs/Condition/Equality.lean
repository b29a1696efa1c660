import TwinGraph.Proofs.Condition.Nodes
import TwinGraph.Proofs.Condition.Rendering

/-!
# Equal conditions

Equality of conditions takes floating-point numbers as values.  There a NaN differs from itself and
the two zeros are equal, although a text shows the sign of a zero.  So every condition without a NaN
is equal to itself, and the texts of two equal conditions differ in the signs of their zeros alone.
-/

namespace TwinGraph

namespace Binary64

theorem eq_zero_of_isZero {number : Binary64} (isZero : number.isZero = true) :
    number = zero number.negative := by
  cases number
  simp only [Binary64.isZero, Bool.and_eq_true, beq_iff_eq] at isZero
  rw [isZero.1, isZero.2]
  rfl

theorem render_zero (negative : Bool) :
    (zero negative).render = if negative then ['-', '0'] else ['0'] := by
  cases negative <;> decide

theorem eq_or_zeros_of_sameValue {left right : Binary64} (same : left.sameValue right = true) :
    left = right ∨ left.isZero = true ∧ right.isZero = true := by
  simp only [sameValue, Bool.and_eq_true, Bool.or_eq_true, beq_iff_eq] at same
  exact same.2

end Binary64

/-- Texts that go on alike just if their signs agree, of which they have equally many. -/
structure ShowSigns (signs signs' : List Bool) (text text' : List Char) : Prop where
  length_eq : signs.length = signs'.length
  append_eq_iff (rest rest' : List Char) :
    text ++ rest = text' ++ rest' ↔ signs = signs' ∧ rest = rest'

namespace ShowSigns

theorem refl (signs : List Bool) (text : List Char) : ShowSigns signs signs text text where
  length_eq := rfl
  append_eq_iff _ _ := by simp

theorem append {signs signs' more more' : List Bool} {text text' after after' : List Char}
    (first : ShowSigns signs signs' text text') (second : ShowSigns more more' after after') :
    ShowSigns (signs ++ more) (signs' ++ more') (text ++ after) (text' ++ after') where
  length_eq := by
    rw [List.length_append, List.length_append, first.length_eq, second.length_eq]
  append_eq_iff rest rest' := by
    have division : signs ++ more = signs' ++ more' ↔ signs = signs' ∧ more = more' :=
      ⟨fun joined => List.append_inj joined first.length_eq, fun ⟨left, right⟩ => by
        rw [left, right]⟩
    rw [List.append_assoc, List.append_assoc, first.append_eq_iff, second.append_eq_iff, division,
      and_assoc]

/-- A common text before both changes nothing. -/
theorem prepend {signs signs' : List Bool} {text text' : List Char} (before : List Char)
    (after : ShowSigns signs signs' text text') :
    ShowSigns signs signs' (before ++ text) (before ++ text') :=
  (refl [] before).append after

theorem eq_iff {signs signs' : List Bool} {text text' : List Char}
    (shown : ShowSigns signs signs' text text') : text = text' ↔ signs = signs' := by
  have whole := shown.append_eq_iff [] []
  rw [List.append_nil, List.append_nil] at whole
  exact whole.trans (and_iff_left rfl)

/-- Without a negative sign on either side there is nothing in which the texts can differ. -/
theorem eq_of_no_negative {signs signs' : List Bool} {text text' : List Char}
    (shown : ShowSigns signs signs' text text') (none : true ∉ signs) (none' : true ∉ signs') :
    text = text' := by
  have positive {list : List Bool} (absent : true ∉ list) : ∀ sign ∈ list, sign = false := by
    intro sign member
    cases sign with
    | false => rfl
    | true => exact absurd member absent
  rw [shown.eq_iff, List.eq_replicate_of_mem (positive none),
    List.eq_replicate_of_mem (positive none'), shown.length_eq]

theorem flatMap {α : Type} {signsOf : α → List Bool} {textOf : α → List Char} {each each' : List α}
    (related : List.Forall₂
      (fun one other => ShowSigns (signsOf one) (signsOf other) (textOf one) (textOf other))
      each each') :
    ShowSigns (each.flatMap signsOf) (each'.flatMap signsOf) (each.flatMap textOf)
      (each'.flatMap textOf) := by
  induction related with
  | nil => exact refl _ _
  | cons first _ induction =>
    rw [List.flatMap_cons, List.flatMap_cons, List.flatMap_cons, List.flatMap_cons]
    exact first.append induction

end ShowSigns

namespace Literal

/-- Whether a literal is a negative zero, if it is a floating-point zero. -/
def zeroSign? : Literal → Option Bool
  | float number => if number.isZero then some number.negative else none
  | _ => none

theorem zeroSign?_zero (negative : Bool) :
    (float (Binary64.zero negative)).zeroSign? = some negative := rfl

/-- Equal literals are one, but for the signs of zeros. -/
theorem eq_or_zeros_of_same {left right : Literal} (same : left.same right = true) :
    left = right ∨ ∃ sign sign', left = float (.zero sign) ∧ right = float (.zero sign') := by
  cases left <;> cases right
  case string.string => exact .inl (congrArg string (eq_of_beq same))
  case integer.integer => exact .inl (congrArg integer (eq_of_beq same))
  case boolean.boolean => exact .inl (congrArg boolean (eq_of_beq same))
  case null.null => exact .inl rfl
  case float.float left right =>
    rcases Binary64.eq_or_zeros_of_sameValue same with rfl | ⟨leftZero, rightZero⟩
    · exact .inl rfl
    · exact .inr ⟨_, _, congrArg float (Binary64.eq_zero_of_isZero leftZero),
        congrArg float (Binary64.eq_zero_of_isZero rightZero)⟩
  all_goals cases same

theorem showSigns_of_same {left right : Literal} (same : left.same right = true) :
    ShowSigns left.zeroSign?.toList right.zeroSign?.toList left.render right.render := by
  rcases eq_or_zeros_of_same same with rfl | ⟨sign, sign', rfl, rfl⟩
  · exact .refl _ _
  · rw [zeroSign?_zero, zeroSign?_zero, render_float, render_float, Binary64.render_zero,
      Binary64.render_zero]
    constructor
    case length_eq => rfl
    case append_eq_iff =>
      intro rest rest'
      cases sign <;> cases sign' <;> simp

end Literal

namespace Condition

theorem sameEach_iff {children others : List Condition} :
    sameEach children others = true ↔ List.Forall₂ (fun child other => child.same other = true)
      children others := by
  induction children generalizing others with
  | nil => cases others <;> simp [sameEach]
  | cons child children induction => cases others <;> simp [sameEach, induction]

/-- A condition in which every comparison is with a finite number is equal to itself. -/
theorem same_self {condition : Condition} (admissible : condition.Everywhere Admissible) :
    condition.same condition = true := by
  induction condition using induction_on with
  | comparison qualifier column operator value =>
    have finite : value.isFinite = true := admissible.self.2
    simp [same, Literal.same_self finite]
  | membership qualifier column kind values => simp [same]
  | modelTest qualifier identifier => simp [same]
  | scalarTest qualifier column function argument => simp [same]
  | negation inner induction => exact induction (everywhere_negation.mp admissible).2
  | group connective children induction =>
    have each : ∀ child ∈ children, child.same child = true := fun child member =>
      induction child member ((everywhere_group.mp admissible).2 child member)
    simp only [same, beq_self_eq_true, Bool.true_and]
    exact sameEach_iff.mpr (List.forall₂_same.mpr each)

/-- The sign of the zero with which a node compares a property, if it is one. -/
def zeroSign? : Condition → Option Bool
  | comparison _ _ _ value => value.zeroSign?
  | _ => none

/-- The signs of the floating-point zeros of a condition from left to right. -/
def zeroSigns (condition : Condition) : List Bool :=
  condition.nodes.filterMap zeroSign?

theorem zeroSigns_comparison {qualifier column : String} {operator : ComparisonOperator}
    {value : Literal} :
    (comparison qualifier column operator value).zeroSigns = value.zeroSign?.toList := by
  simp only [zeroSigns, nodes, List.filterMap_cons, List.filterMap_nil, zeroSign?]
  cases value.zeroSign? <;> rfl

theorem zeroSigns_negation {inner : Condition} : (negation inner).zeroSigns = inner.zeroSigns := rfl

theorem zeroSigns_group {connective : Connective} {children : List Condition} :
    (group connective children).zeroSigns = children.flatMap zeroSigns := by
  simp only [zeroSigns, nodes, nodesOfEach_eq, List.filterMap_cons, zeroSign?,
    List.filterMap_flatMap]
  rfl

/-- What equal conditions have in common is shown along both of them.  They are one where they
compare nothing, and where they compare a property their literals are equal. -/
@[elab_as_elim]
theorem same_induction {motive : Condition → Condition → Prop}
    (refl : ∀ condition, motive condition condition)
    (comparison : ∀ qualifier column operator value value', value.same value' = true →
      motive (.comparison qualifier column operator value)
        (.comparison qualifier column operator value'))
    (negation : ∀ inner inner', motive inner inner' → motive (.negation inner) (.negation inner'))
    (group : ∀ connective children others, List.Forall₂ motive children others →
      motive (.group connective children) (.group connective others))
    {left right : Condition} (same : left.same right = true) : motive left right := by
  induction left using induction_on generalizing right with
  | comparison qualifier column operator value =>
    cases right <;> simp only [Condition.same, Bool.false_eq_true] at same
    simp only [Bool.and_eq_true, beq_iff_eq] at same
    obtain ⟨⟨⟨rfl, rfl⟩, rfl⟩, values⟩ := same
    exact comparison _ _ _ _ _ values
  | membership qualifier column kind values =>
    cases right <;> simp only [Condition.same, Bool.false_eq_true] at same
    simp only [Bool.and_eq_true, beq_iff_eq] at same
    obtain ⟨⟨⟨rfl, rfl⟩, rfl⟩, rfl⟩ := same
    exact refl _
  | modelTest qualifier identifier =>
    cases right <;> simp only [Condition.same, Bool.false_eq_true] at same
    simp only [Bool.and_eq_true, beq_iff_eq] at same
    obtain ⟨rfl, rfl⟩ := same
    exact refl _
  | scalarTest qualifier column function argument =>
    cases right <;> simp only [Condition.same, Bool.false_eq_true] at same
    simp only [Bool.and_eq_true, beq_iff_eq] at same
    obtain ⟨⟨⟨rfl, rfl⟩, rfl⟩, rfl⟩ := same
    exact refl _
  | negation inner induction =>
    cases right <;> simp only [Condition.same, Bool.false_eq_true] at same
    exact negation _ _ (induction same)
  | group connective children induction =>
    cases right <;> simp only [Condition.same, Bool.false_eq_true] at same
    simp only [Bool.and_eq_true, beq_iff_eq] at same
    obtain ⟨rfl, each⟩ := same
    exact group _ _ _ (forall₂_of_forall₂ induction (sameEach_iff.mp each))

theorem aliases_eq_of_same {left right : Condition} (same : left.same right = true) :
    left.aliases = right.aliases := by
  refine same_induction ?refl ?comparison ?negation ?group same
  case refl => exact fun _ => rfl
  case comparison =>
    intro qualifier column operator value value' _
    rw [aliases, aliases]
  case negation =>
    intro inner inner' induction
    rw [aliases, aliases, induction]
  case group =>
    intro connective children others related
    rw [aliases_group, aliases_group]
    induction related with
    | nil => rfl
    | cons first _ induction => rw [List.flatMap_cons, List.flatMap_cons, first, induction]

/-- The texts of equal conditions differ in the signs of their zeros alone. -/
theorem showSigns_of_same {left right : Condition} (same : left.same right = true) :
    ShowSigns left.zeroSigns right.zeroSigns left.render right.render := by
  refine same_induction ?refl ?comparison ?negation ?group same
  case refl => exact fun _ => .refl _ _
  case comparison =>
    intro qualifier column operator value value' values
    rw [zeroSigns_comparison, zeroSigns_comparison, render, render]
    exact .prepend _ (.prepend [' '] (.prepend _ (.prepend [' ']
      (Literal.showSigns_of_same values))))
  case negation =>
    intro inner inner' induction
    rw [zeroSigns_negation, zeroSigns_negation, render, render]
    exact induction.prepend _
  case group =>
    intro connective children others related
    cases related with
    | nil => exact .refl _ _
    | cons first more =>
      have later := more.imp fun _ _ child => child.prepend (renderConnective connective)
      rw [zeroSigns_group, zeroSigns_group, render_group_cons, render_group_cons,
        List.flatMap_cons, List.flatMap_cons]
      have members := first.append (ShowSigns.flatMap later)
      have closed := members.append (.refl [] [')'])
      rw [List.append_nil, List.append_nil, List.append_assoc, List.append_assoc] at closed
      exact closed.prepend ['(']

end Condition
end TwinGraph
