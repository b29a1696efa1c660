import TwinGraph.Proofs.Query.Entries
import TwinGraph.Proofs.Query.Projection
import TwinGraph.Proofs.Vocabulary

/-!
# The text of a query is unambiguous

The clauses of a query stand one after the other with single spaces between them, and the last
alias of a join as well as the condition may be missing.  They can be told apart all the same: an
alias is no word of the query language, and a relationship does not go beyond the next space.
-/

namespace TwinGraph

open Text

/-- The joins and the condition of a query, each with a space before it. -/
def renderClauses (joins : List Join) (condition : Option Condition) : List Char :=
  joins.flatMap (' ' :: ·.render) ++ condition.elim [] (' ' :: renderWhere ·.render)

/-- A text that is over, or goes on with a further clause. -/
def Continues (rest : List Char) : Prop :=
  rest = [] ∨ ∃ word after, (word = "JOIN" ∨ word = "WHERE") ∧
    rest = ' ' :: (word.toList ++ ' ' :: after)

theorem Continues.stops {keep : Char → Bool} {rest : List Char} (continues : Continues rest)
    (space : keep ' ' = false) : Stops keep rest := by
  rcases continues with rfl | ⟨word, after, -, rfl⟩
  · exact stops_nil
  · exact stops_cons.mpr space

theorem continues_renderClauses (joins : List Join) (condition : Option Condition) :
    Continues (renderClauses joins condition) := by
  cases joins with
  | nil =>
    cases condition with
    | none => exact .inl rfl
    | some condition => exact .inr ⟨"WHERE", condition.render, .inr rfl, rfl⟩
  | cons join joins => exact .inr ⟨"JOIN", _, .inl rfl, rfl⟩

/-- An alias is no word with which a clause begins. -/
theorem continues_ne_alias {name : String} {rest after : List Char} (usable : IsAlias name)
    (continues : Continues rest) (stops : Stops isWordPart after) :
    rest ≠ ' ' :: (name.toList ++ after) := by
  rintro rfl
  rcases continues with empty | ⟨word, more, words, shape⟩
  · cases empty
  · have kept : ∀ character ∈ word.toList, isWordPart character = true := by
      rcases words with rfl | rfl <;> exact List.all_eq_true.mp (by decide)
    have reserved : isReserved word = true := by
      rcases words with rfl | rfl <;> decide +kernel
    obtain ⟨names, -⟩ := append_inj_of_stops (fun _ member => usable.isWordPart_of_mem member) kept
      stops (stops_cons.mpr rfl) (List.tail_eq_of_cons_eq shape)
    exact usable.toList_ne reserved names

/-- The alias of a relationship, which may be missing, with the space before it. -/
def renderRelationshipAlias (name? : Option String) : List Char :=
  name?.elim [] (' ' :: ·.toList)

theorem relationshipAlias_of_append {name? name?' : Option String} {rest rest' : List Char}
    (usable : ∀ name ∈ name?, IsAlias name) (usable' : ∀ name ∈ name?', IsAlias name)
    (continues : Continues rest) (continues' : Continues rest')
    (equal : renderRelationshipAlias name? ++ rest = renderRelationshipAlias name?' ++ rest') :
    name? = name?' ∧ rest = rest' := by
  have stops : Stops isWordPart rest := continues.stops rfl
  have stops' : Stops isWordPart rest' := continues'.stops rfl
  cases name? with
  | none =>
    cases name?' with
    | none => exact ⟨rfl, equal⟩
    | some name' =>
      -- What goes on after the missing alias would have to be the alias itself.
      exact absurd equal (continues_ne_alias (usable' name' rfl) continues stops')
  | some name =>
    cases name?' with
    | none =>
      exact absurd equal.symm (continues_ne_alias (usable name rfl) continues' stops)
    | some name' =>
      obtain ⟨names, rests⟩ := append_inj_of_stops
        (fun _ member => (usable name rfl).isWordPart_of_mem member)
        (fun _ member => (usable' name' rfl).isWordPart_of_mem member) stops stops'
        (List.tail_eq_of_cons_eq equal)
      rw [String.toList_inj.mp names]
      exact ⟨rfl, rests⟩

/-- A join whose text can be read back. -/
structure Join.Legible (join : Join) : Prop where
  introduced : ∀ name ∈ join.introduced, IsAlias name
  source : IsAlias join.source
  spaceless : ' ' ∉ join.relationship.toList

theorem Join.render_append (join : Join) (rest : List Char) :
    join.render ++ rest = "JOIN".toList ++ ' ' :: (join.target.toList ++ ' ' ::
      ("RELATED".toList ++ ' ' :: (join.source.toList ++ '.' :: (join.relationship.toList ++
        (renderRelationshipAlias join.relationshipAlias ++ rest))))) := by
  have clause : join.render = "JOIN".toList ++ ' ' :: (join.target.toList ++ ' ' ::
      ("RELATED".toList ++ ' ' :: (join.source.toList ++ '.' :: (join.relationship.toList ++
        renderRelationshipAlias join.relationshipAlias)))) := rfl
  simp only [clause, List.append_assoc, List.cons_append]

theorem stops_renderRelationshipAlias (name? : Option String) {rest : List Char}
    (continues : Continues rest) : Stops (· != ' ') (renderRelationshipAlias name? ++ rest) := by
  cases name? with
  | none => exact continues.stops rfl
  | some name => exact stops_cons.mpr rfl

theorem join_of_append {join join' : Join} {rest rest' : List Char} (legible : join.Legible)
    (legible' : join'.Legible) (continues : Continues rest) (continues' : Continues rest')
    (equal : join.render ++ rest = join'.render ++ rest') : join = join' ∧ rest = rest' := by
  obtain ⟨target, source, relationship, name?⟩ := join
  obtain ⟨target', source', relationship', name?'⟩ := join'
  have usable : ∀ name ∈ name?, IsAlias name := fun name chosen =>
    legible.introduced name (List.mem_cons_of_mem _ (Option.mem_toList.mpr chosen))
  have usable' : ∀ name ∈ name?', IsAlias name := fun name chosen =>
    legible'.introduced name (List.mem_cons_of_mem _ (Option.mem_toList.mpr chosen))
  rw [Join.render_append, Join.render_append] at equal
  simp only [List.append_cancel_left_eq, List.cons.injEq, true_and] at equal
  obtain ⟨targets, afterTarget⟩ := append_cons_inj
    ((legible.introduced target List.mem_cons_self).notMem rfl)
    ((legible'.introduced target' List.mem_cons_self).notMem rfl) equal
  simp only [List.append_cancel_left_eq, List.cons.injEq, true_and] at afterTarget
  obtain ⟨sources, afterSource⟩ :=
    append_cons_inj (legible.source.notMem rfl) (legible'.source.notMem rfl) afterTarget
  obtain ⟨relationships, afterRelationship⟩ := append_inj_of_stops
    (bne_of_notMem legible.spaceless) (bne_of_notMem legible'.spaceless)
    (stops_renderRelationshipAlias name? continues)
    (stops_renderRelationshipAlias name?' continues') afterSource
  obtain ⟨names, rests⟩ :=
    relationshipAlias_of_append usable usable' continues continues' afterRelationship
  obtain rfl : target = target' := String.toList_inj.mp targets
  obtain rfl : source = source' := String.toList_inj.mp sources
  obtain rfl : relationship = relationship' := String.toList_inj.mp relationships
  exact ⟨by rw [names], rests⟩

theorem condition_of_append {condition condition' : Option Condition}
    (equal : renderClauses [] condition = renderClauses [] condition') :
    condition.map Condition.text = condition'.map Condition.text := by
  cases condition with
  | none =>
    cases condition' with
    | none => rfl
    | some condition' => cases equal
  | some condition =>
    cases condition' with
    | none => cases equal
    | some condition' =>
      have clauses : "WHERE ".toList ++ condition.render = "WHERE ".toList ++ condition'.render :=
        List.tail_eq_of_cons_eq equal
      rw [Option.map_some, Option.map_some, Condition.text, Condition.text,
        List.append_cancel_left clauses]

/-- A condition is no further join, since their first words differ. -/
theorem renderClauses_cons_ne (join : Join) (joins : List Join)
    (condition condition' : Option Condition) :
    renderClauses [] condition' ≠ renderClauses (join :: joins) condition := by
  intro equal
  cases condition' with
  | none => cases equal
  | some condition' => exact absurd (List.cons.inj (List.tail_eq_of_cons_eq equal)).1 (by decide)

theorem clauses_of_append {joins joins' : List Join} {condition condition' : Option Condition}
    (legible : ∀ join ∈ joins, join.Legible) (legible' : ∀ join ∈ joins', join.Legible)
    (equal : renderClauses joins condition = renderClauses joins' condition') :
    joins = joins' ∧ condition.map Condition.text = condition'.map Condition.text := by
  induction joins generalizing joins' with
  | nil =>
    cases joins' with
    | nil => exact ⟨rfl, condition_of_append equal⟩
    | cons join' joins' => exact absurd equal (renderClauses_cons_ne _ _ _ _)
  | cons join joins induction =>
    cases joins' with
    | nil => exact absurd equal.symm (renderClauses_cons_ne _ _ _ _)
    | cons join' joins' =>
      rw [List.forall_mem_cons] at legible legible'
      have split (join : Join) (joins : List Join) (condition : Option Condition) :
          renderClauses (join :: joins) condition =
            ' ' :: (join.render ++ renderClauses joins condition) := by
        simp only [renderClauses, List.flatMap_cons, List.cons_append, List.append_assoc]
      rw [split, split] at equal
      obtain ⟨rfl, rests⟩ := join_of_append legible.1 legible'.1
        (continues_renderClauses joins condition) (continues_renderClauses joins' condition')
        (List.tail_eq_of_cons_eq equal)
      obtain ⟨rfl, conditions⟩ := induction legible.2 legible'.2 rests
      exact ⟨rfl, conditions⟩

namespace Query

/-- A query without a space in the names that it takes as they are. -/
structure Spaceless (query : Query) : Prop where
  relationships : ∀ join ∈ query.joins, ' ' ∉ join.relationship.toList
  entries : ∀ entry ∈ query.projection.entries, ' ' ∉ entry.toList

variable {query left right : Query}

theorem Reachable.legible_joins (reached : query.Reachable) (spaceless : query.Spaceless) :
    ∀ join ∈ query.joins, join.Legible := by
  have agrees := reached.wellScoped
  intro join member
  constructor
  · intro name introduced
    exact agrees.isAlias (agrees.mem_aliases_of_mem_introduced member introduced)
  · exact agrees.isAlias (agrees.source_mem_aliases member)
  · exact spaceless.relationships join member

theorem Reachable.legible_projection (reached : query.Reachable) (spaceless : query.Spaceless) :
    query.projection.Legible := by
  have agrees := reached.wellScoped
  have entries := spaceless.entries
  cases chosen : query.projection with
  | count => exact ⟨.inl rfl, nofun⟩
  | select selection =>
    obtain ⟨nonempty, known⟩ := reached.projected selection chosen
    rw [chosen] at entries
    exact ⟨.inr nonempty, fun entry member =>
      ⟨agrees.isAlias (known entry member), entries entry member⟩⟩

theorem render_eq (query : Query) :
    query.render = query.projection.render ++ ' ' :: ("FROM".toList ++ ' ' ::
      (query.origin.collection.token.toList ++ ' ' :: (query.origin.root.toList ++
        renderClauses query.joins query.condition))) := by
  have origin : query.origin.render = "FROM".toList ++ ' ' ::
      (query.origin.collection.token.toList ++ ' ' :: query.origin.root.toList) := rfl
  rw [render, renderTail, origin]
  simp only [renderClauses, List.append_assoc, List.cons_append]

theorem origin_of_append {origin origin' : Origin} {rest rest' : List Char}
    (usable : IsAlias origin.root) (usable' : IsAlias origin'.root) (continues : Continues rest)
    (continues' : Continues rest')
    (equal : origin.collection.token.toList ++ ' ' :: (origin.root.toList ++ rest) =
      origin'.collection.token.toList ++ ' ' :: (origin'.root.toList ++ rest')) :
    origin = origin' ∧ rest = rest' := by
  obtain ⟨collection, root⟩ := origin
  obtain ⟨collection', root'⟩ := origin'
  obtain ⟨rfl, roots⟩ := token_of_append Collection.space_notMem_token Collection.token_inj equal
  obtain ⟨names, rests⟩ := append_inj_of_stops (fun _ member => usable.isWordPart_of_mem member)
    (fun _ member => usable'.isWordPart_of_mem member) (continues.stops rfl) (continues'.stops rfl)
    roots
  obtain rfl : root = root' := String.toList_inj.mp names
  exact ⟨rfl, rests⟩

/-- One text, one query: all clauses can be read off the text, and of the condition its text. -/
theorem clauses_eq_of_text_eq (leftReached : left.Reachable) (rightReached : right.Reachable)
    (leftSpaceless : left.Spaceless) (rightSpaceless : right.Spaceless)
    (equal : left.text = right.text) :
    (left.root = right.root ∧ left.origin = right.origin) ∧ left.joins = right.joins ∧
      left.projection = right.projection ∧
        left.condition.map Condition.text = right.condition.map Condition.text := by
  have texts : left.render = right.render := String.ofList_inj.mp equal
  rw [render_eq, render_eq] at texts
  obtain ⟨projections, afterProjection⟩ := projection_of_append
    (leftReached.legible_projection leftSpaceless) (rightReached.legible_projection rightSpaceless)
    texts
  obtain ⟨origins, afterOrigin⟩ := origin_of_append leftReached.wellScoped.isAlias_origin
    rightReached.wellScoped.isAlias_origin (continues_renderClauses _ _)
    (continues_renderClauses _ _) afterProjection
  obtain ⟨joins, conditions⟩ := clauses_of_append (leftReached.legible_joins leftSpaceless)
    (rightReached.legible_joins rightSpaceless) afterOrigin
  have roots : left.root = right.root := by
    rw [← leftReached.wellScoped.origin_root, ← rightReached.wellScoped.origin_root, origins]
  exact ⟨⟨roots, origins⟩, joins, projections, conditions⟩

/-- Two ways to one text: a cap of the root, and a cap after the root was chosen. -/
theorem clauses_eq_of_capped :
    let tested (argument : Option String) := Condition.scalarTest "rel" "x" .isDefined argument
    let joins : List Join := [⟨"room", "twin", "contains", some "rel"⟩]
    let left : Query := ⟨.topped, "twin", ⟨.digitalTwins, "twin"⟩, ⟨["twin", "room", "rel"]⟩,
      joins, some (tested none), .select ⟨["twin"], some 5⟩, false⟩
    let right : Query := ⟨.selected, "twin", ⟨.digitalTwins, "twin"⟩, ⟨["twin", "room", "rel"]⟩,
      joins, some (tested (some "y")), .select ⟨["twin"], some 5⟩, false⟩
    (left.Reachable ∧ right.Reachable) ∧ (left.Spaceless ∧ right.Spaceless) ∧
      left.text = right.text ∧ (left.root = right.root ∧ left.origin = right.origin) ∧
        left.joins = right.joins ∧ left.projection = right.projection ∧
          left.condition.map Condition.text = right.condition.map Condition.text := by
  intro tested joins left right
  have started : (⟨.base, "twin", ⟨.digitalTwins, "twin"⟩, ⟨["twin"]⟩, [], none,
      .select ⟨["twin"], none⟩, false⟩ : Query).Reachable :=
    @Reachable.start _ .digitalTwins _ .new rfl
  have joined := @Reachable.perform _ _ (.join ⟨"room", "twin", "contains", some "rel"⟩) started rfl
    (outcome_join_eq_ok_iff.mpr ⟨by decide +kernel, by decide, by decide +kernel, by decide, rfl⟩)
  have tests (argument : Option String) := @Reachable.perform _ _ (.filter (tested argument)) joined
    rfl (outcome_filter_eq_ok_iff.mpr ⟨by simp [tested, Condition.aliases, Join.introduced], rfl⟩)
  have leftReached : left.Reachable :=
    @Reachable.perform _ _ (.top 5) (tests none) rfl (outcome_top _ _)
  have chosen := @Reachable.perform _ _ (.select ["twin"]) (tests (some "y")) rfl
    (outcome_select_eq_ok_iff.mpr ⟨⟨by decide, by decide +kernel⟩, rfl⟩)
  have rightReached : right.Reachable :=
    @Reachable.perform _ _ (.top 5) chosen rfl (outcome_top _ _)
  have leftSpaceless : left.Spaceless := ⟨by decide +kernel, by decide +kernel⟩
  have rightSpaceless : right.Spaceless := ⟨by decide +kernel, by decide +kernel⟩
  have texts : left.text = right.text := by decide +kernel
  exact ⟨⟨leftReached, rightReached⟩, ⟨leftSpaceless, rightSpaceless⟩, texts,
    clauses_eq_of_text_eq leftReached rightReached leftSpaceless rightSpaceless texts⟩

end Query
end TwinGraph
