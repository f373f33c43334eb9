import SqlDialect.Proofs.InPlace.Compiled
import SqlDialect.Proofs.Tied.Order

/-!
# Building on after compiling in place

A query can be compiled in place while it is being built. The steps that follow write the same text
as if it had not been, but the values that compiling has moved stay where they are: behind the
values of the select clause so far. Values that belong between the two places are overtaken
(`Db2.Connection.overtaken`): those that later steps bind for the select clause, and those of the
conditions if the rows are no longer numbered in the end. So the values are handed over in the same
order unless values were moved and others are overtaken (`Db2.Connection.Displaces`).
-/

namespace SqlDialect.Db2.Connection

variable (c : Connection) (q : Query) (more : List Step)

/-- The values that stand before the moved ones if the query is built at once, and behind them if it
is compiled in place before the last steps. -/
def overtaken : List Value :=
  more.flatMap (Step.values .select) ++
    if (c.numberedOffset? (Step.runAll q more)).isSome then []
    else
      (Step.runAll q more).bindings.get .condition ++ (Step.runAll q more).bindings.get .having

/-- Compiling the query in place puts values before others that they belong behind, once the last
steps have been taken. -/
def Displaces : Prop := c.moved q ≠ [] ∧ c.overtaken q more ≠ []

variable {c q more}

theorem append_comm_of_not_displaces (hplace : ¬ c.Displaces q more) :
    c.moved q ++ c.overtaken q more = c.overtaken q more ++ c.moved q := by
  have hnone : c.moved q = [] ∨ c.overtaken q more = [] := by
    simpa only [Displaces, not_and_or, not_not] using hplace
  rcases hnone with hnone | hnone <;> simp [hnone]

theorem not_displaces_of_append_comm
    (hnodup : (c.dialect.prepare (c.overtaken q more ++ c.moved q)).Nodup)
    (hsame : c.dialect.prepare (c.moved q ++ c.overtaken q more) =
      c.dialect.prepare (c.overtaken q more ++ c.moved q)) : ¬ c.Displaces q more := by
  rintro ⟨hmoved, hovertaken⟩
  rw [Dialect.prepare_append] at hnodup
  rw [Dialect.prepare_append, Dialect.prepare_append] at hsame
  rcases eq_nil_or_eq_nil_of_append_comm hnodup hsame.symm with hnone | hnone
  · exact hovertaken (Dialect.prepare_eq_nil.1 hnone)
  · exact hmoved (Dialect.prepare_eq_nil.1 hnone)

section Building

variable (h : Step.allBuild more = true)

include h

/-- After the last steps, the query is the one that is built at once but for its bindings. -/
theorem runAll_selectInPlace :
    ∃ b, Step.runAll (c.dialect.selectInPlace q).2 more =
      { Step.runAll q more with bindings := b } :=
  Step.runAll_rebound h q (c.dialect.rebind q)

theorem select_runAll_selectInPlace :
    c.dialect.select (Step.runAll (c.dialect.selectInPlace q).2 more) =
      c.dialect.select (Step.runAll q more) := by
  obtain ⟨b, hb⟩ := runAll_selectInPlace (c := c) (q := q) h
  rw [hb, select_rebound]

theorem heldOrder_runAll_selectInPlace :
    c.heldOrder (Step.runAll (c.dialect.selectInPlace q).2 more) =
      c.heldOrder (Step.runAll q more) := by
  obtain ⟨b, hb⟩ := runAll_selectInPlace (c := c) (q := q) h
  rw [hb]
  rfl

/-- **Where compiling in place leaves the values**: those that it has moved change places with those
that they overtake. -/
theorem flatten_runAll_selectInPlace :
    ∃ front back,
      (c.dialect.rebind (Step.runAll q more)).flatten =
        front ++ (c.overtaken q more ++ c.moved q) ++ back ∧
      (c.dialect.rebind (Step.runAll (c.dialect.selectInPlace q).2 more)).flatten =
        front ++ (c.moved q ++ c.overtaken q more) ++ back := by
  rw [flatten_rebind, flatten_rebind, heldOrder_runAll_selectInPlace h]
  -- What each category holds, built at once and built after compiling.
  have hbuilt := Step.get_bindings_runAll h q
  have hlater := Step.get_bindings_runAll h (c.dialect.selectInPlace q).2
  simp only [Dialect.selectInPlace] at hlater ⊢
  have horder := c.moved_append_get_order_rebind q
  -- In front stand the values of the select clause so far, and behind what both places precede.
  by_cases hnumbered : (c.numberedOffset? (Step.runAll q more)).isSome = true
  · refine ⟨q.bindings.get .select, (c.dialect.rebind q).get .order ++
      more.flatMap (Step.values .order) ++ (Step.runAll q more).bindings.get .condition ++
        (Step.runAll q more).bindings.get .having, ?_, ?_⟩
    · simp [heldOrder, overtaken, hnumbered, hbuilt, ← horder]
    · simp [heldOrder, overtaken, hnumbered, hbuilt, hlater, get_select_rebind,
        get_condition_rebind, get_having_rebind]
  · refine ⟨q.bindings.get .select, (c.dialect.rebind q).get .order ++
      more.flatMap (Step.values .order), ?_, ?_⟩
    · simp [heldOrder, overtaken, hnumbered, hbuilt, ← horder, Category.all]
    · simp [heldOrder, overtaken, hnumbered, hbuilt, hlater, get_select_rebind,
        get_condition_rebind, get_having_rebind, Category.all]

theorem values_runAll_selectInPlace :
    ∃ front back,
      (c.statement (Step.runAll q more)).values =
        front ++ c.dialect.prepare (c.overtaken q more ++ c.moved q) ++ back ∧
      (c.statement (Step.runAll (c.dialect.selectInPlace q).2 more)).values =
        front ++ c.dialect.prepare (c.moved q ++ c.overtaken q more) ++ back := by
  obtain ⟨front, back, hbuilt, hlater⟩ := flatten_runAll_selectInPlace (c := c) (q := q) h
  refine ⟨c.dialect.prepare front, c.dialect.prepare back, ?_, ?_⟩
  · rw [statement, Dialect.statement, hbuilt, Dialect.prepare_append, Dialect.prepare_append]
  · rw [statement, Dialect.statement, hlater, Dialect.prepare_append, Dialect.prepare_append]

/-- **What is built on a query that was compiled in place** has the same text as if it had not been
compiled, and the same values; those that were moved have changed places with those that they
overtake. The values are in the same order unless some are displaced, and if the values are told
apart, only then. -/
theorem statement_runAll_selectInPlace :
    (c.statement (Step.runAll (c.dialect.selectInPlace q).2 more)).sql =
      (c.statement (Step.runAll q more)).sql ∧
    (∃ front back,
      (c.statement (Step.runAll q more)).values =
        front ++ c.dialect.prepare (c.overtaken q more ++ c.moved q) ++ back ∧
      (c.statement (Step.runAll (c.dialect.selectInPlace q).2 more)).values =
        front ++ c.dialect.prepare (c.moved q ++ c.overtaken q more) ++ back) ∧
    (¬ c.Displaces q more →
      (c.statement (Step.runAll (c.dialect.selectInPlace q).2 more)).values =
        (c.statement (Step.runAll q more)).values) ∧
    ((c.statement (Step.runAll q more)).values.Nodup →
      (c.statement (Step.runAll (c.dialect.selectInPlace q).2 more)).values =
        (c.statement (Step.runAll q more)).values →
      ¬ c.Displaces q more) := by
  obtain ⟨front, back, hbuilt, hlater⟩ := values_runAll_selectInPlace (c := c) (q := q) h
  refine ⟨select_runAll_selectInPlace h, ⟨front, back, hbuilt, hlater⟩, ?_, ?_⟩
  · intro hplace
    rw [hbuilt, hlater, append_comm_of_not_displaces hplace]
  · intro hnodup hsame
    rw [hbuilt] at hnodup
    rw [hbuilt, hlater, List.append_cancel_right_eq, List.append_cancel_left_eq] at hsame
    have hmiddle := (List.nodup_append.1 (List.nodup_append.1 hnodup).1).2.1
    exact not_displaces_of_append_comm hmiddle hsame

end Building

/-- A query for orders by region that leaves out rows. -/
def byRegion : Query :=
  Query.build
    [.source "orders",
      .compare .and (.named "state") "=" (.literal (.text "open")),
      .orderByRaw "case when region = ? then 0 else 1 end" [.text "north"],
      .offset 10]

/-- Steps that bind a value for a condition and one for the order. -/
def narrowSteps : List Step :=
  [.compare .and (.named "total") ">" (.literal (.int 5)), .orderByRaw "abs(total - ?)" [.int 7],
    .limit 3]

/-- A step that binds a value for the select clause. -/
def labelSteps : List Step := [.selectRaw "? as label" [.text "late"]]

theorem statement_runAll_selectInPlace_byRegion :
    Step.allBuild narrowSteps = true ∧ ¬ ({} : Connection).Displaces byRegion narrowSteps ∧
    (({} : Connection).statement
        (Step.runAll (({} : Connection).dialect.selectInPlace byRegion).2 narrowSteps)).values =
      [.text "north", .int 7, .text "open", .int 5] ∧
    Step.allBuild labelSteps = true ∧
    (({} : Connection).statement (Step.runAll byRegion labelSteps)).values.Nodup ∧
    (({} : Connection).statement
        (Step.runAll (({} : Connection).dialect.selectInPlace byRegion).2 labelSteps)).values ≠
      (({} : Connection).statement (Step.runAll byRegion labelSteps)).values := by
  have hplace : ¬ ({} : Connection).Displaces byRegion narrowSteps := fun h => h.2 rfl
  have hnodup : (({} : Connection).statement (Step.runAll byRegion labelSteps)).values.Nodup := by
    have hvalues : (({} : Connection).statement (Step.runAll byRegion labelSteps)).values =
        [.text "late", .text "north", .text "open"] := rfl
    rw [hvalues]
    simp
  refine ⟨rfl, hplace, ?_, rfl, hnodup, fun hsame => ?_⟩
  · exact (statement_runAll_selectInPlace rfl).2.2.1 hplace
  · exact (statement_runAll_selectInPlace rfl).2.2.2 hnodup hsame ⟨nofun, nofun⟩

/-- Compiled in place first, the statement has the value for the region before that for the label,
which its text asks for first; and once no row is left out, before that for the state, which its
text asks for first then. -/
theorem statement_runAll_selectInPlace_ne :
    (({} : Connection).statement (Step.runAll byRegion labelSteps)).values =
      [.text "late", .text "north", .text "open"] ∧
    (({} : Connection).statement
        (Step.runAll (({} : Connection).dialect.selectInPlace byRegion).2 labelSteps)).values =
      [.text "north", .text "late", .text "open"] ∧
    (({} : Connection).statement (Step.runAll byRegion [.offset 0])).values =
      [.text "open", .text "north"] ∧
    (({} : Connection).statement
        (Step.runAll (({} : Connection).dialect.selectInPlace byRegion).2 [.offset 0])).values =
      [.text "north", .text "open"] ∧
    ¬ ∀ (q : Query) (more : List Step), Step.allBuild more = true →
      (({} : Connection).statement
          (Step.runAll (({} : Connection).dialect.selectInPlace q).2 more)).values =
        (({} : Connection).statement (Step.runAll q more)).values := by
  refine ⟨rfl, rfl, rfl, rfl, fun hall => ?_⟩
  have hsame := hall byRegion [.offset 0] rfl
  have hfirst : Value.text "north" = .text "open" := (List.cons.inj hsame).1
  exact absurd (Value.text.inj hfirst) (by decide)

end SqlDialect.Db2.Connection
