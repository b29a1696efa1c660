import TwinGraph.Clause
import TwinGraph.Proofs.Vocabulary

/-!
# Where a projection ends

A projection is told from the others by the word after `SELECT`.  A cap and a count go on with a
parenthesis there, which no entry does after its alias.  The last entry goes before the word of the
origin, which is no alias and so no further entry.
-/

namespace TwinGraph

open Text

/-- An entry is its alias, and then nothing more or a point and what it names of the alias. -/
theorem exists_after_alias (entry : String) {follow : Char} (rest : List Char)
    (follows : follow = ',' ∨ follow = ' ') :
    ∃ mark after, entry.toList ++ follow :: rest = (firstPart '.' entry).toList ++ mark :: after ∧
      (mark = '.' ∨ mark = ',' ∨ mark = ' ') := by
  have parts : entry.toList =
      (firstPart '.' entry).toList ++ entry.toList.dropWhile (· != '.') := by
    rw [toList_firstPart, List.takeWhile_append_dropWhile]
  have head := List.head?_dropWhile_not (· != '.') entry.toList
  cases more : entry.toList.dropWhile (· != '.') with
  | nil =>
    rw [more, List.append_nil] at parts
    exact ⟨follow, rest, by rw [parts], .inr follows⟩
  | cons mark after =>
    rw [more] at parts head
    refine ⟨mark, after ++ follow :: rest, ?_, .inl (by simpa using head)⟩
    rw [parts, List.append_assoc, List.cons_append]

/-- A word at the beginning of entries is the alias of the first one, and no call. -/
theorem alias_of_entry {entry : String} {follow mark : Char} {rest word after : List Char}
    (usable : IsAlias (firstPart '.' entry)) (follows : follow = ',' ∨ follow = ' ')
    (kept : ∀ character ∈ word, isWordPart character = true) (stop : isWordPart mark = false)
    (equal : entry.toList ++ follow :: rest = word ++ mark :: after) :
    (firstPart '.' entry).toList = word ∧ (mark = '.' ∨ mark = ',' ∨ mark = ' ') := by
  obtain ⟨mark', after', shape, marks⟩ := exists_after_alias entry rest follows
  have stop' : isWordPart mark' = false := by
    rcases marks with rfl | rfl | rfl <;> rfl
  rw [shape] at equal
  obtain ⟨words, rests⟩ := append_inj_of_stops (fun _ member => usable.isWordPart_of_mem member)
    kept (stops_cons.mpr stop') (stops_cons.mpr stop) equal
  obtain rfl : mark' = mark := (List.cons.inj rests).1
  exact ⟨words, marks⟩

/-- The entries of a projection after the first one, and all that follows the projection. -/
def renderEntries (entries : List String) (after : List Char) : List Char :=
  entries.flatMap (',' :: ' ' :: ·.toList) ++ ' ' :: ("FROM".toList ++ ' ' :: after)

theorem exists_renderEntries (entries : List String) (after : List Char) :
    ∃ follow rest,
      renderEntries entries after = follow :: rest ∧ (follow = ',' ∨ follow = ' ') := by
  cases entries with
  | nil => exact ⟨' ', _, rfl, .inr rfl⟩
  | cons entry others => exact ⟨',', _, rfl, .inl rfl⟩

theorem renderEntries_cons (entry : String) (entries : List String) (after : List Char) :
    renderEntries (entry :: entries) after =
      ',' :: ' ' :: (entry.toList ++ renderEntries entries after) := by
  simp only [renderEntries, List.flatMap_cons, List.cons_append, List.append_assoc]

/-- What can be told of an entry from the text of a projection. -/
structure LegibleEntry (entry : String) : Prop where
  usable : IsAlias (firstPart '.' entry)
  spaceless : ' ' ∉ entry.toList

/-- The origin is no further entry, since its first word is no alias. -/
theorem append_renderEntries_ne {first first' second : String} {entries : List String}
    {after after' : List Char} (legible : LegibleEntry first) (legible' : LegibleEntry first')
    (usable : LegibleEntry second) :
    first.toList ++ renderEntries [] after ≠
      first'.toList ++ renderEntries (second :: entries) after' := by
  intro equal
  -- Up to the first space both sides are an entry, so `FROM` would begin the second one.
  obtain ⟨follow, rest, shape, follows⟩ := exists_renderEntries entries after'
  have regrouped : first.toList ++ ' ' :: ("FROM".toList ++ ' ' :: after) =
      (first'.toList ++ [',']) ++ ' ' :: (second.toList ++ follow :: rest) := by
    rw [renderEntries_cons, shape] at equal
    simpa [renderEntries] using equal
  have spaceless : ' ' ∉ first'.toList ++ [','] := by
    simp [legible'.spaceless]
  obtain ⟨-, tails⟩ := append_cons_inj legible.spaceless spaceless regrouped
  have word : ∀ character ∈ "FROM".toList, isWordPart character = true :=
    List.all_eq_true.mp (by decide)
  obtain ⟨aliases, -⟩ := alias_of_entry usable.usable follows word rfl tails.symm
  exact usable.usable.toList_ne (by decide +kernel) aliases

theorem entries_of_append {first first' : String} {entries entries' : List String}
    {after after' : List Char} (legible : ∀ entry ∈ first :: entries, LegibleEntry entry)
    (legible' : ∀ entry ∈ first' :: entries', LegibleEntry entry)
    (equal : first.toList ++ renderEntries entries after =
      first'.toList ++ renderEntries entries' after') :
    first :: entries = first' :: entries' ∧ after = after' := by
  induction entries generalizing first first' entries' with
  | nil =>
    cases entries' with
    | nil =>
      -- The origin follows on both sides.
      obtain ⟨firsts, tails⟩ := append_cons_inj (legible first (by simp)).spaceless
        (legible' first' (by simp)).spaceless equal
      rw [String.toList_inj.mp firsts]
      exact ⟨rfl, by simpa using tails⟩
    | cons second others =>
      exact absurd equal (append_renderEntries_ne (legible first (by simp))
        (legible' first' (by simp)) (legible' second (by simp)))
  | cons second others induction =>
    cases entries' with
    | nil =>
      exact absurd equal.symm (append_renderEntries_ne (legible' first' (by simp))
        (legible first (by simp)) (legible second (by simp)))
    | cons second' others' =>
      rw [List.forall_mem_cons] at legible legible'
      -- An entry may end in a comma of its own, so the separating one is read as part of it.
      have regrouped : (first.toList ++ [',']) ++
          ' ' :: (second.toList ++ renderEntries others after) = (first'.toList ++ [',']) ++
            ' ' :: (second'.toList ++ renderEntries others' after') := by
        simpa [renderEntries_cons] using equal
      have spaceless {entry : String} (legible : LegibleEntry entry) :
          ' ' ∉ entry.toList ++ [','] := by
        simp [legible.spaceless]
      obtain ⟨firsts, tails⟩ :=
        append_cons_inj (spaceless legible.1) (spaceless legible'.1) regrouped
      obtain ⟨more, afters⟩ := induction legible.2 legible'.2 tails
      rw [String.toList_inj.mp (List.append_cancel_right firsts), more]
      exact ⟨rfl, afters⟩

/-- The entries of a projection; a count has none. -/
def Projection.entries : Projection → List String
  | select selection => selection.entries
  | count => []

/-- A projection whose text can be read back. -/
structure Projection.Legible (projection : Projection) : Prop where
  nonempty : projection = .count ∨ projection.entries ≠ []
  each : ∀ entry ∈ projection.entries, LegibleEntry entry

/-- The text of a projection and of what follows it, from the word on that is not `SELECT`. -/
theorem render_select_append (first : String) (entries : List String) (top : Option UInt16)
    (after : List Char) :
    (Projection.select ⟨first :: entries, top⟩).render ++ ' ' :: ("FROM".toList ++ ' ' :: after) =
      "SELECT".toList ++
        (renderTop top ++ ' ' :: (first.toList ++ renderEntries entries after)) := by
  have clause : (Projection.select ⟨first :: entries, top⟩).render = "SELECT".toList ++
      (renderTop top ++ ' ' :: commaSeparated ((first :: entries).map String.toList)) := rfl
  rw [clause, commaSeparated, List.map_cons, intercalate_cons, List.flatMap_map]
  simp only [renderEntries, List.append_assoc, List.cons_append]
  rfl

theorem render_count_append (after : List Char) :
    Projection.count.render ++ after =
      "SELECT".toList ++ ' ' :: ("COUNT".toList ++ '(' :: ')' :: after) :=
  rfl

theorem renderTop_some_append (limit : UInt16) (after : List Char) :
    renderTop (some limit) ++ after =
      ' ' :: ("TOP".toList ++ '(' :: (Nat.toDigits 10 limit.toNat ++ ')' :: after)) := by
  have clause : renderTop (some limit) =
      ' ' :: ("TOP".toList ++ '(' :: (Nat.toDigits 10 limit.toNat ++ [')'])) := rfl
  rw [clause]
  simp only [List.cons_append, List.append_assoc, List.nil_append]

/-- No entry is taken for a cap or a count, since these go on with a parenthesis. -/
theorem append_renderEntries_ne_call {first : String} {entries : List String}
    {after after' word : List Char} (usable : IsAlias (firstPart '.' first))
    (kept : ∀ character ∈ word, isWordPart character = true) :
    first.toList ++ renderEntries entries after ≠ word ++ '(' :: after' := by
  intro equal
  obtain ⟨follow, rest, shape, follows⟩ := exists_renderEntries entries after
  rw [shape] at equal
  obtain ⟨-, marks⟩ := alias_of_entry usable follows kept rfl equal
  exact absurd marks (by decide)

theorem limit_of_append {limit limit' : UInt16} {rest rest' : List Char}
    (equal : Nat.toDigits 10 limit.toNat ++ ')' :: rest =
      Nat.toDigits 10 limit'.toNat ++ ')' :: rest') : limit = limit' ∧ rest = rest' := by
  have whole (number : Nat) : ')' ∉ Nat.toDigits 10 number := by
    intro member
    exact absurd (Nat.isDigit_of_mem_toDigits (by decide) (by decide) member) (by decide)
  obtain ⟨digits, rests⟩ := append_cons_inj (whole _) (whole _) equal
  have numbers := congrArg (Nat.ofDigitChars 10 · 0) digits
  simp only [Nat.ofDigitChars_toDigits (by decide : 1 < 10) (by decide)] at numbers
  exact ⟨UInt16.toNat_inj.mp numbers, rests⟩

theorem top_of_append {top top' : Option UInt16} {first first' : String}
    {entries entries' : List String} {after after' : List Char}
    (usable : IsAlias (firstPart '.' first)) (usable' : IsAlias (firstPart '.' first'))
    (equal : renderTop top ++ ' ' :: (first.toList ++ renderEntries entries after) =
      renderTop top' ++ ' ' :: (first'.toList ++ renderEntries entries' after')) :
    top = top' ∧ first.toList ++ renderEntries entries after =
      first'.toList ++ renderEntries entries' after' := by
  have word : ∀ character ∈ "TOP".toList, isWordPart character = true :=
    List.all_eq_true.mp (by decide)
  cases top with
  | none =>
    cases top' with
    | none => exact ⟨rfl, List.tail_eq_of_cons_eq equal⟩
    | some limit' =>
      rw [renderTop_some_append] at equal
      exact absurd (List.tail_eq_of_cons_eq equal) (append_renderEntries_ne_call usable word)
  | some limit =>
    rw [renderTop_some_append] at equal
    cases top' with
    | none =>
      exact absurd (List.tail_eq_of_cons_eq equal).symm (append_renderEntries_ne_call usable' word)
    | some limit' =>
      rw [renderTop_some_append] at equal
      simp only [List.cons.injEq, true_and, List.append_cancel_left_eq] at equal
      obtain ⟨rfl, rests⟩ := limit_of_append equal
      exact ⟨rfl, List.tail_eq_of_cons_eq rests⟩

theorem render_count_append_ne {top : Option UInt16} {first : String} {entries : List String}
    {after after' : List Char} (usable : IsAlias (firstPart '.' first)) :
    Projection.count.render ++ after ≠
      (Projection.select ⟨first :: entries, top⟩).render ++
        ' ' :: ("FROM".toList ++ ' ' :: after') := by
  intro equal
  have word : ∀ character ∈ "COUNT".toList, isWordPart character = true :=
    List.all_eq_true.mp (by decide)
  rw [render_count_append, render_select_append, List.append_cancel_left_eq] at equal
  cases top with
  | none =>
    exact append_renderEntries_ne_call usable word (List.tail_eq_of_cons_eq equal).symm
  | some limit =>
    rw [renderTop_some_append] at equal
    exact absurd (List.cons.inj (List.tail_eq_of_cons_eq equal)).1 (by decide)

theorem Projection.Legible.exists_entries {selection : Selection}
    (legible : (select selection).Legible) :
    ∃ first entries, selection.entries = first :: entries ∧
      ∀ entry ∈ first :: entries, LegibleEntry entry := by
  have nonempty : selection.entries ≠ [] := legible.nonempty.resolve_left nofun
  obtain ⟨first, entries, shape⟩ := List.exists_cons_of_ne_nil nonempty
  exact ⟨first, entries, shape, shape ▸ legible.each⟩

theorem projection_of_append {projection projection' : Projection} {after after' : List Char}
    (legible : projection.Legible) (legible' : projection'.Legible)
    (equal : projection.render ++ ' ' :: ("FROM".toList ++ ' ' :: after) =
      projection'.render ++ ' ' :: ("FROM".toList ++ ' ' :: after')) :
    projection = projection' ∧ after = after' := by
  cases projection with
  | count =>
    cases projection' with
    | count => simpa using equal
    | select selection =>
      obtain ⟨chosen, top⟩ := selection
      obtain ⟨first, entries, rfl, each⟩ := legible'.exists_entries
      exact absurd equal (render_count_append_ne (each first List.mem_cons_self).usable)
  | select selection =>
    obtain ⟨chosen, top⟩ := selection
    obtain ⟨first, entries, rfl, each⟩ := legible.exists_entries
    cases projection' with
    | count =>
      exact absurd equal.symm (render_count_append_ne (each first List.mem_cons_self).usable)
    | select selection' =>
      obtain ⟨chosen', top'⟩ := selection'
      obtain ⟨first', entries', rfl, each'⟩ := legible'.exists_entries
      rw [render_select_append, render_select_append, List.append_cancel_left_eq] at equal
      obtain ⟨rfl, texts⟩ := top_of_append (each first List.mem_cons_self).usable
        (each' first' List.mem_cons_self).usable equal
      obtain ⟨same, afters⟩ := entries_of_append each each' texts
      rw [same]
      exact ⟨rfl, afters⟩

end TwinGraph
