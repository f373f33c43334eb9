import SqlDialect.Proofs.Tied.Fragments

/-!
# Statements with their values

A `Dialect.Tying` is what is left to know of a dialect before its statements can be tied to their
values: the tied forms of its own decisions, and the order in which a statement holds the values of
each category. `Dialect.Tying.select` is the statement of a query that is built by steps, in which
each placeholder has the value that it is written for.

A sub-query is written where its condition stands, with its placeholders in the order of its own
statement. So the conditions hold the values of sub-queries in that order
(`Dialect.Tying.conditionValues`), which need not be the order in which they were bound.
-/

namespace SqlDialect

namespace Dialect

/-- The decisions of a dialect with values in place, and the order of these values. -/
structure Tying (d : Dialect) where
  marks : d.MarksValues
  /-- A column compared with an operand. -/
  compare : Column → String → Operand → Tied
  /-- A column tested for membership in a list, negated if the flag is set. -/
  inList : Column → List Operand → Bool → Tied
  /-- The statement for a query whose clauses are written. -/
  assemble : Query → TiedFragments → Tied
  /-- The categories in the order in which the statement of a query holds their placeholders. -/
  order : Query → List Category
  aligned_compare : ∀ {column operator operand}, column.Unmarked → Unmarked operator →
    operand.Unmarked →
      (compare column operator operand).Aligned (d.compare column operator operand) operand.values
  aligned_inList : ∀ {column operands} (negated), column.Unmarked →
    (∀ operand ∈ operands, operand.Unmarked) →
      (inList column operands negated).Aligned (d.inList column operands negated)
        (operands.flatMap Operand.values)
  aligned_assemble : ∀ {q : Query} {ts f values},
    (∀ table, q.source = some table → Unmarked table) → ts.Aligned f values →
      (assemble q ts).Aligned (d.assemble q f) ((order q).flatMap values)
  order_perm : ∀ q, (order q).Perm Category.all
  flatten_rebind : ∀ q, (d.rebind q).flatten = (order q).flatMap q.bindings.get

namespace Tying

open Tied (plain fill)

variable {d : Dialect}

/-! ## Conditions -/

mutual

/-- The conditions that a step adds. -/
def conditions (T : d.Tying) : Step → List (Connective × Tied)
  | .compare connective column operator operand =>
    [(connective, T.compare column operator operand)]
  | .like column pattern negated =>
    [(.and, T.compare column (if negated then "not like" else "like") pattern)]
  | .inList column operands negated => [(.and, T.inList column operands negated)]
  | .inQuery column steps negated =>
    [(.and, d.tiedMember column negated
      (T.assemble (Query.build steps) (d.tiedFragments steps (T.allConditions steps))))]
  | .inDeferred column steps =>
    [(.and, d.tiedMember column false
      (T.assemble (Query.build steps) (d.tiedFragments steps (T.allConditions steps))))]
  | .null column negated =>
    [(.and, plain (d.column column ++ if negated then " is not null" else " is null"))]
  | .between column low high negated => [(.and, d.tiedBetween column low high negated)]
  | .compareColumns first operator second =>
    [(.and, plain (d.columnTest ⟨.named first, operator, .named second⟩))]
  | .conditionRaw sql values => [(.and, fill sql values)]
  | .group steps =>
    if (Query.build steps).conditions.isEmpty then []
    else [(.and, plain "(" ++ Tied.chain (T.allConditions steps) ++ plain ")")]
  | .hasRows steps negated =>
    [(.and, plain (if negated then "not exists (" else "exists (") ++
      T.assemble (Query.build steps) (d.tiedFragments steps (T.allConditions steps)) ++ plain ")")]
  | _ => []

/-- The conditions that steps add. -/
def allConditions (T : d.Tying) : List Step → List (Connective × Tied)
  | [] => []
  | step :: steps => T.conditions step ++ T.allConditions steps

end

variable (T : d.Tying)

/-- The statement of the query that the steps build. -/
def select (steps : List Step) : Tied :=
  T.assemble (Query.build steps) (d.tiedFragments steps (T.allConditions steps))

/-- The values of the conditions in the order of their placeholders. -/
def conditionValues (steps : List Step) : List Value :=
  (T.allConditions steps).flatMap fun c => c.2.values

/-- The values that the statement holds, by category. -/
def held (steps : List Step) : Category → List Value :=
  (Query.build steps).valuesWith (T.conditionValues steps)

/-- The values that the statement holds, in the order of their placeholders. -/
def values (steps : List Step) : List Value :=
  (T.order (Query.build steps)).flatMap (T.held steps)

theorem allConditions_eq (steps : List Step) :
    T.allConditions steps = steps.flatMap T.conditions := by
  induction steps with
  | nil => rfl
  | cons step steps ih => rw [allConditions, ih, List.flatMap_cons]

/-! ## Alignment -/

/-- The values that the statement holds for a step: a sub-query brings its own in the order of its
statement. -/
def stepValues : Step → List Value
  | .inQuery _ steps _ => T.values steps
  | .inDeferred _ steps => T.values steps
  | .group steps => T.conditionValues steps
  | .hasRows steps _ => T.values steps
  | step => step.values .condition

/-- The conditions of the query that the steps build are aligned. -/
def ConditionsAligned (steps : List Step) : Prop :=
  Tied.AlignedChain (T.allConditions steps) (d.conditionTexts (Query.build steps).conditions)
    (T.conditionValues steps)

variable {T}

/-- A statement is aligned if its conditions are. -/
theorem aligned_select_of {steps : List Step} (hbuild : Step.allBuild steps = true)
    (htidy : Step.AllTidy steps) (h : T.ConditionsAligned steps) :
    (T.select steps).Aligned (d.select (Query.build steps)) (T.values steps) := by
  rw [select_eq]
  refine T.aligned_assemble (fun table htable => ?_) (T.marks.aligned_fragments hbuild htidy h)
  exact Step.allTidy_iff.1 htidy (.source table) (Query.mem_of_source_build hbuild htable)

/-- One step: its conditions are aligned if those of its sub-query or group are. -/
theorem aligned_conditions {step : Step} (hbuilds : step.builds = true) (htidy : step.Tidy)
    (hn : ∀ sub, step.nested? = some sub → T.ConditionsAligned sub) :
    Tied.AlignedChain (T.conditions step) (d.conditionTexts step.clauses) (T.stepValues step) := by
  have hmarks : d.toSpelling.MarksValues := T.marks.toMarksValues
  have hkeeps : d.toSpelling.KeepsUnmarked := hmarks.toKeepsUnmarked
  -- The statement of a sub-query, which is part of three kinds of conditions.
  have hsub : ∀ sub, step.nested? = some sub →
      (T.select sub).Aligned (d.select (Query.build sub)) (T.values sub) := fun sub hs =>
    aligned_select_of (Step.allBuild_nested hbuilds hs) (htidy.nested hs) (hn sub hs)
  rw [conditionTexts_eq_map]
  cases step with
  | compare connective column operator operand =>
    exact .singleton _ (T.aligned_compare htidy.1 htidy.2.1 htidy.2.2)
  | like column pattern negated =>
    have hword : Unmarked (if negated then "not like" else "like") := by
      cases negated <;> decide
    exact .singleton _ (T.aligned_compare htidy.1 hword htidy.2)
  | inList column operands negated =>
    exact .singleton _ (T.aligned_inList negated htidy.1 htidy.2)
  | inQuery column steps negated => exact .singleton _ (hmarks.aligned_member htidy.1 (hsub _ rfl))
  | inDeferred column steps => exact .singleton _ (hmarks.aligned_member htidy.1 (hsub _ rfl))
  | null column negated =>
    have hword : Unmarked (if negated then " is not null" else " is null") := by
      cases negated <;> decide
    have hcolumn : Unmarked (d.column column) := Spelling.unmarked_column hkeeps htidy
    exact .singleton _ (Tied.aligned_plain (unmarked_append.2 ⟨hcolumn, hword⟩))
  | between column low high negated =>
    exact .singleton _ (hmarks.aligned_between htidy.1 htidy.2.1 htidy.2.2)
  | compareColumns first operator second =>
    exact .singleton _ (Tied.aligned_plain (hmarks.unmarked_columnTest htidy.1 htidy.2.1 htidy.2.2))
  | conditionRaw sql values => exact .singleton _ (Tied.aligned_fill htidy)
  | group steps =>
    have hgroup := hn steps rfl
    simp only [conditions, Step.clauses, stepValues]
    split
    · next hempty =>
      rw [ConditionsAligned, List.isEmpty_iff.1 hempty, conditionTexts] at hgroup
      rw [hgroup.values_eq_nil]
      exact .nil
    · have htext : d.predicate (.group (Query.build steps).conditions) =
          "(" ++ chain (d.conditionTexts (Query.build steps).conditions) ++ ")" :=
        d.predicate_group _
      rw [List.map_singleton, htext]
      exact .singleton _ (Tied.Aligned.enclosed (by decide) hgroup.chain (by decide))
  | hasRows steps negated =>
    have hword : Unmarked (if negated then "not exists (" else "exists (") := by
      cases negated <;> decide
    exact .singleton _ (Tied.Aligned.enclosed hword (hsub _ rfl) (by decide))
  | change f => cases hbuilds
  | _ => exact .nil

/-- The conditions of every query that can be built are aligned, each step with its values. -/
theorem aligned_allConditions (steps : List Step) (hbuild : Step.allBuild steps = true)
    (htidy : Step.AllTidy steps) :
    Tied.AlignedChain (T.allConditions steps) (d.conditionTexts (Query.build steps).conditions)
      (steps.flatMap T.stepValues) := by
  induction steps using Step.induction with
  | h steps ih =>
    rw [allConditions_eq, Query.conditions_build hbuild, conditionTexts_eq_map, List.map_flatMap]
    refine .flatMap fun step hstep => ?_
    have hbuilds : step.builds = true := Step.allBuild_iff.1 hbuild step hstep
    have ht : step.Tidy := Step.allTidy_iff.1 htidy step hstep
    rw [← conditionTexts_eq_map]
    refine aligned_conditions hbuilds ht fun sub hsub => ?_
    have hchain := ih step hstep sub hsub (Step.allBuild_nested hbuilds hsub) (ht.nested hsub)
    exact ⟨hchain.texts_eq, hchain.full, rfl⟩

variable {steps : List Step} (hbuild : Step.allBuild steps = true) (htidy : Step.AllTidy steps)

include hbuild htidy

theorem conditionValues_eq : T.conditionValues steps = steps.flatMap T.stepValues :=
  (aligned_allConditions steps hbuild htidy).values_eq

/-- **The statement of every query that can be built is aligned** with the values that it holds, in
the order in which it holds their categories. -/
theorem aligned_select :
    (T.select steps).Aligned (d.select (Query.build steps)) (T.values steps) := by
  have hchain := aligned_allConditions (T := T) steps hbuild htidy
  exact aligned_select_of hbuild htidy ⟨hchain.texts_eq, hchain.full, rfl⟩

end Tying

/-! ## Standard decisions -/

theorem unmarked_limitClause (rows : UInt64) : Unmarked (limitClause rows) :=
  unmarked_append.2 ⟨by decide, unmarked_repr _⟩

theorem unmarked_offsetClause (rows : UInt64) : Unmarked (offsetClause rows) :=
  unmarked_append.2 ⟨by decide, unmarked_repr _⟩

/-- The standard decisions, with values in place. -/
def Tying.ofSpelling (name : String) {s : Spelling} (timestampFormat : String)
    (h : s.MarksValues) : (Dialect.ofSpelling name s timestampFormat).Tying where
  marks := { h with limit := unmarked_limitClause, offset := unmarked_offsetClause }
  compare := s.tiedComparison
  inList := s.tiedList
  assemble := fun _ ts => ts.concatenate
  order := fun _ => Category.all
  aligned_compare := fun hc hop ho => h.aligned_comparison hc hop ho
  aligned_inList := fun _ hc ho => h.aligned_list hc ho
  aligned_assemble := fun _ h => h.concatenate
  order_perm := fun _ => .refl _
  flatten_rebind := fun q => q.bindings.flatten_eq

/-- Standard SQL, with values in place. -/
def Tying.generic {tablePrefix : String} (h : Unmarked tablePrefix) :
    (Dialect.generic tablePrefix).Tying :=
  Tying.ofSpelling "generic" Format.default (Spelling.marksValues_standard h)

end Dialect

end SqlDialect
