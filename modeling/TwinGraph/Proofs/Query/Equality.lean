import TwinGraph.Proofs.Condition.Calls
import TwinGraph.Proofs.Condition.Equality
import TwinGraph.Session

/-!
# Equal queries

Queries are compared part by part, and their conditions by value.  Where all parts are equal, the
texts differ in the signs of zeros alone, and equal conditions refer to the same aliases.
-/

namespace TwinGraph
namespace Query

open Condition
open Session (sameCondition)

/-- The signs of the floating-point zeros to which a query compares, from left to right. -/
def zeroSigns (query : Query) : List Bool :=
  query.condition.elim [] Condition.zeroSigns

/-- Equality of queries part by part, with their conditions as values. -/
structure Equal (left right : Query) : Prop where
  origin : left.origin = right.origin
  joins : left.joins = right.joins
  condition : sameCondition left.condition right.condition = true
  projection : left.projection = right.projection

theorem showSigns_of_sameCondition {left right : Option Condition}
    (same : sameCondition left right = true) :
    ShowSigns (left.elim [] Condition.zeroSigns) (right.elim [] Condition.zeroSigns)
      (left.elim [] (' ' :: renderWhere ·.render))
      (right.elim [] (' ' :: renderWhere ·.render)) := by
  cases left <;> cases right <;> simp only [sameCondition, Bool.false_eq_true] at same
  case none.none => exact .refl _ _
  case some.some left right =>
    exact .prepend [' '] (.prepend _ (Condition.showSigns_of_same same))

theorem Equal.showSigns {left right : Query} (equal : left.Equal right) :
    ShowSigns left.zeroSigns right.zeroSigns left.render right.render := by
  have clause := showSigns_of_sameCondition equal.condition
  have joined := clause.prepend (right.joins.flatMap (' ' :: ·.render))
  have tail := joined.prepend right.origin.render
  rw [render, render, renderTail, renderTail, equal.origin, equal.joins, equal.projection]
  exact (tail.prepend [' ']).prepend right.projection.render

/-- Equal conditions refer to the same aliases, and they have the same text just if their zeros have
the same signs, as all have where nothing is compared to a negative zero.  So do equal queries. -/
theorem text_eq_iff_of_equal :
    (∀ left right : Condition, left.same right = true →
      left.aliases = right.aliases ∧ (left.text = right.text ↔ left.zeroSigns = right.zeroSigns) ∧
        (true ∉ left.zeroSigns → true ∉ right.zeroSigns → left.text = right.text)) ∧
    ∀ left right : Query, left.Equal right →
      (left.text = right.text ↔ left.zeroSigns = right.zeroSigns) ∧
        (true ∉ left.zeroSigns → true ∉ right.zeroSigns → left.text = right.text) := by
  constructor
  · intro left right same
    have shown := Condition.showSigns_of_same same
    exact ⟨aliases_eq_of_same same, text_inj.trans shown.eq_iff, fun none none' =>
      text_inj.mpr (shown.eq_of_no_negative none none')⟩
  · intro left right equal
    have texts : left.text = right.text ↔ left.render = right.render := String.ofList_inj
    have shown := equal.showSigns
    exact ⟨texts.trans shown.eq_iff, fun none none' =>
      texts.mpr (shown.eq_of_no_negative none none')⟩

/-- Of two zeros below a negation, the second has another sign in an equal query. -/
theorem text_ne_of_equal_below_negation :
    let zeros (sign : Bool) : Condition :=
      .group .conjunction [.comparison "twin" "x" .equal (.float (.zero true)),
        .negation (.comparison "room" "y" .lessThan (.float (.zero sign)))]
    let query (sign : Bool) : Query := ⟨.counted, "twin", ⟨.digitalTwins, "twin"⟩,
      ⟨["twin", "room"]⟩, [⟨"room", "twin", "has", none⟩], some (zeros sign), .count, false⟩
    ((zeros false).same (zeros true) = true ∧ (zeros false).aliases = (zeros true).aliases ∧
        (zeros false).text ≠ (zeros true).text) ∧
      (query false).Equal (query true) ∧ (query false).text ≠ (query true).text := by
  intro zeros query
  have same : (zeros false).same (zeros true) = true := by decide +kernel
  have signs : (zeros false).zeroSigns ≠ (zeros true).zeroSigns := by decide +kernel
  have equal : (query false).Equal (query true) := ⟨rfl, rfl, same, rfl⟩
  obtain ⟨aliases, exactly, -⟩ := text_eq_iff_of_equal.1 _ _ same
  have exactlyQuery := (text_eq_iff_of_equal.2 _ _ equal).1
  exact ⟨⟨same, aliases, fun texts => signs (exactly.mp texts)⟩, equal,
    fun texts => signs (exactlyQuery.mp texts)⟩

/-- The two comparisons of one property with a zero are equal and have different texts. -/
theorem not_text_eq_of_same :
    ¬ ∀ left right : Condition, Built left → Built right → left.same right = true →
      left.text = right.text ∧ left.aliases = right.aliases := by
  intro equally
  let zero (sign : Bool) : Condition := comparison "twin" "x" .equal (.float (.zero sign))
  have built (sign : Bool) : Built (zero sign) :=
    .compare (compare_eq_ok_iff.mpr ⟨by decide +kernel, rfl, rfl⟩)
  have same : (zero false).same (zero true) = true := by decide +kernel
  have texts := (equally _ _ (built false) (built true) same).1
  have different : "twin.x = 0" ≠ "twin.x = -0" := by simp
  exact different (by
    calc
      "twin.x = 0" = (zero false).text := by decide +kernel
      _ = (zero true).text := texts
      _ = "twin.x = -0" := by decide +kernel)

end Query
end TwinGraph
