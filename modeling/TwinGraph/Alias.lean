import TwinGraph.Error
import TwinGraph.Event

/-!
# Aliases and their scope

An alias is written without quotes wherever a query refers to a twin or a relationship.  So it has
to be one word of ASCII characters, and it may not be a word of the query language itself.  The
scope of a query is the aliases that it has introduced, in the order of their introduction.
Conditions and projections may refer to these aliases only, and an alias is introduced but once.
-/

namespace TwinGraph

/-- Refuse a text that can be no alias.  A blank text is called blank, one that is no word is
called that, and only then the reserved words are looked at. -/
def validateAlias (field text : String) : Except QueryError Unit :=
  if Text.isBlank text then .error (.invalidArgument field .blank)
  else if !Text.isWord text then .error (.invalidArgument field (.notIdentifier text))
  else if isReserved text then .error (.invalidArgument field (.reservedWord text))
  else .ok ()

/-- What every alias is: a word that is not reserved. -/
def IsAlias (text : String) : Prop :=
  Text.isWord text = true ∧ isReserved text = false

instance (text : String) : Decidable (IsAlias text) :=
  inferInstanceAs (Decidable (_ ∧ _))

theorem validateAlias_eq_ok_iff {field text : String} :
    validateAlias field text = .ok () ↔ IsAlias text := by
  unfold validateAlias IsAlias
  cases word : Text.isWord text with
  | true =>
    rw [Text.isBlank_of_isWord word]
    cases isReserved text <;> simp
  | false => cases Text.isBlank text <;> simp

/-- Aliases in the order of their introduction. -/
structure Scope where
  /-- The aliases. -/
  aliases : List String
  deriving DecidableEq

namespace Scope

/-- The scope that holds a root alias alone.  The alias is not looked at. -/
def ofRoot (root : String) : Scope := ⟨[root]⟩

/-- Whether an alias has been introduced. -/
def contains (scope : Scope) (name : String) : Bool :=
  scope.aliases.contains name

/-- The number of aliases. -/
def size (scope : Scope) : Nat :=
  scope.aliases.length

/-- Whether no alias has been introduced. -/
def isEmpty (scope : Scope) : Bool :=
  scope.aliases.isEmpty

/-- Whether two scopes hold the same aliases in any order. -/
def sameAliases (left right : Scope) : Bool :=
  left.size == right.size && left.aliases.all right.contains

/-- Introduce an alias, which has to be well formed and new. -/
def introduce (scope : Scope) (field name : String) : Except QueryError Scope := do
  validateAlias field name
  if scope.contains name then
    throw (.duplicateAlias name)
  else
    return ⟨scope.aliases ++ [name]⟩

/-- Introduce an alias if there is one. -/
def introduceOptional (scope : Scope) (field : String) : Option String → Except QueryError Scope
  | none => .ok scope
  | some name => scope.introduce field name

/-- Refuse an alias that has not been introduced, and record that. -/
def require (scope : Scope) (name : String) : Traced QueryError Unit :=
  if scope.contains name then pure ()
  else ⟨.error (.unknownAlias name scope.aliases), [.rejected name scope.aliases]⟩

/-- Refuse the first of several aliases that has not been introduced. -/
def requireAll (scope : Scope) : List String → Traced QueryError Unit
  | [] => pure ()
  | name :: rest => do
    scope.require name
    scope.requireAll rest

theorem contains_iff {scope : Scope} {name : String} :
    scope.contains name = true ↔ name ∈ scope.aliases := by
  simp [contains]

theorem require_of_mem {scope : Scope} {name : String} (member : name ∈ scope.aliases) :
    scope.require name = pure () := by
  simp [require, contains_iff.mpr member]

theorem require_of_notMem {scope : Scope} {name : String} (absent : name ∉ scope.aliases) :
    scope.require name =
      ⟨.error (.unknownAlias name scope.aliases), [.rejected name scope.aliases]⟩ := by
  simp [require, contains_iff, absent]

theorem introduce_eq_ok_iff {before after : Scope} {field name : String} :
    before.introduce field name = .ok after ↔
      IsAlias name ∧ name ∉ before.aliases ∧ after = ⟨before.aliases ++ [name]⟩ := by
  rw [← @validateAlias_eq_ok_iff field name, ← contains_iff]
  unfold introduce
  cases validateAlias field name with
  | error error => simp [bind, Except.bind]
  | ok _ =>
    cases contained : before.contains name with
    | true => simp [bind, Except.bind, throw, throwThe, MonadExceptOf.throw]
    | false => simp [bind, Except.bind, pure, Except.pure, eq_comm]

theorem requireAll_of_subset {scope : Scope} {names : List String}
    (members : ∀ name ∈ names, name ∈ scope.aliases) : scope.requireAll names = pure () := by
  induction names with
  | nil => rfl
  | cons name rest ih =>
    rw [requireAll, require_of_mem (members name List.mem_cons_self), Traced.bind_of_ok _ rfl,
      ih fun other member => members other (List.mem_cons_of_mem _ member)]
    rfl

end Scope
end TwinGraph
