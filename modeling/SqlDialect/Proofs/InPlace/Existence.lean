import SqlDialect.Proofs.InPlace.Compiled
import SqlDialect.Proofs.Tied.Order

/-!
# Existence checks after compiling in place

The query that an existence check selects is built by the steps of the query itself, but for those
that select columns, and two more (`Step.build_existenceSteps`). So its statement has as many
question marks as it has values.

The check drops the values of the select clause together with the columns. If the query was compiled
in place before, values of its order may stand there. They are dropped too, while the order stays:
these are the values that the check lacks (`Db2.Connection.existenceStatement_compiled`).
-/

namespace SqlDialect

/-! ## The steps of an existence check -/

/-- The query without its columns and their values. -/
def Query.unselected (q : Query) : Query :=
  { q with columns := none, bindings := q.bindings.set .select [] }

namespace Step

/-- Whether a step selects columns. -/
def selects (step : Step) : Bool := step.columns?.isSome

/-- The steps of the existence check of what some steps build. -/
def existenceSteps (steps : List Step) : List Step :=
  steps.filter (fun step => !step.selects) ++ [.selectRaw "1 exists" [], .limit 1]

variable {step : Step} {steps : List Step}

theorem category_ne_select (hselects : step.selects = false) : step.category ≠ .select := by
  cases step with
  | selectRaw sql values => cases hselects
  | _ => exact nofun

theorem unselected_run_of_selects (hselects : step.selects = true) (q : Query) :
    (step.run q).unselected = q.unselected := by
  cases step with
  | select names => rfl
  | selectRaw sql values => cases values <;> rfl
  | _ => cases hselects

theorem unselected_run (h : step.builds = true) (hselects : step.selects = false) (q : Query) :
    (step.run q).unselected = step.run q.unselected := by
  have hcolumns : step.columns? = none := by simpa [selects] using hselects
  rw [run_eq (ne_change h), run_eq (ne_change h)]
  simp only [Query.unselected, selectMore, hcolumns,
    Bindings.set_extend_of_ne (category_ne_select hselects)]

/-- Without the columns, a query is built by the steps that select none. -/
theorem unselected_runAll (h : allBuild steps = true) (q : Query) :
    (runAll q steps).unselected =
      runAll q.unselected (steps.filter fun step => !step.selects) := by
  induction steps generalizing q with
  | nil => rfl
  | cons step steps ih =>
    obtain ⟨hstep, hsteps⟩ := Bool.and_eq_true_iff.1 h
    rw [runAll, ih hsteps]
    cases hselects : step.selects with
    | true =>
      rw [unselected_run_of_selects hselects, List.filter_cons_of_neg (by simp [hselects])]
    | false =>
      rw [unselected_run hstep hselects, List.filter_cons_of_pos (by simp [hselects]), runAll]

/-- **An existence check is built by steps** like any other query. -/
theorem build_existenceSteps (h : allBuild steps = true) :
    Query.build (existenceSteps steps) = Db2.existenceQuery (Query.build steps) := by
  have hunselected : Query.build (steps.filter fun step => !step.selects) =
      (Query.build steps).unselected := (unselected_runAll h .empty).symm
  have hlast : ∀ q : Query, runAll q.unselected [.selectRaw "1 exists" [], .limit 1] =
      Db2.existenceQuery q := fun _ => rfl
  rw [Query.build, existenceSteps, runAll_append, ← Query.build, hunselected, hlast]

theorem forall_mem_existenceSteps {P : Step → Prop} (h : ∀ step ∈ steps, P step)
    (hselect : P (.selectRaw "1 exists" [])) (hlimit : P (.limit 1)) :
    ∀ step ∈ existenceSteps steps, P step := by
  intro step hstep
  rcases List.mem_append.1 hstep with hkept | hlast
  · exact h step (List.mem_of_mem_filter hkept)
  · simp only [List.mem_cons, List.not_mem_nil, or_false] at hlast
    rcases hlast with rfl | rfl
    · exact hselect
    · exact hlimit

theorem allBuild_existenceSteps (h : allBuild steps = true) :
    allBuild (existenceSteps steps) = true :=
  allBuild_iff.2 (forall_mem_existenceSteps (allBuild_iff.1 h) rfl rfl)

theorem allTidy_existenceSteps (h : AllTidy steps) : AllTidy (existenceSteps steps) :=
  allTidy_iff.2 (forall_mem_existenceSteps (allTidy_iff.1 h) rfl trivial)

end Step

/-! ## Values that are dropped -/

namespace Db2.Connection

variable (c : Connection)

/-- The values that the existence check of a query drops if the query has been compiled in place so
many times before. -/
def dropped (n : Nat) (q : Query) : List Value := if n = 0 then [] else c.moved q

variable {c}

/-- The values of an existence check, as its statement holds them. -/
theorem flatten_rebind_existenceQuery (q : Query) :
    (c.dialect.rebind (existenceQuery q)).flatten =
      (c.heldOrder q).flatMap (q.bindings.set .select []).get :=
  c.flatten_rebind (existenceQuery q)

/-- After the query has been compiled in place, its existence check lacks the values that have
moved. -/
theorem flatten_rebind_existenceQuery_selectInPlace (q : Query) :
    (c.dialect.rebind (existenceQuery q)).flatten = c.moved q ++
      (c.dialect.rebind (existenceQuery (c.dialect.selectInPlace q).2)).flatten := by
  have hheld : c.heldOrder (c.dialect.selectInPlace q).2 = c.heldOrder q := rfl
  rw [flatten_rebind_existenceQuery, flatten_rebind_existenceQuery, hheld, heldOrder]
  simp only [Dialect.selectInPlace]
  have horder := c.moved_append_get_order_rebind q
  by_cases hnumbered : (c.numberedOffset? q).isSome = true
  · simp [hnumbered, get_condition_rebind, get_having_rebind, ← horder]
  · simp [hnumbered, moved, get_rebind, Category.all]

theorem sql_existenceStatement_compiled (n : Nat) (q : Query) :
    (c.existenceStatement (c.dialect.compiled n q)).sql = (c.existenceStatement q).sql := by
  cases n with
  | zero => rfl
  | succ n =>
    rw [compiled_succ]
    exact c.select_rebound (existenceQuery q) ((c.dialect.rebind q).set .select [])

theorem values_existenceStatement_compiled (n : Nat) (q : Query) :
    (c.existenceStatement q).values = c.dialect.prepare (c.dropped n q) ++
      (c.existenceStatement (c.dialect.compiled n q)).values := by
  cases n with
  | zero => rfl
  | succ n =>
    rw [compiled_succ, dropped, if_neg n.succ_ne_zero, existenceStatement, existenceStatement,
      Dialect.statement, Dialect.statement, ← Dialect.prepare_append]
    exact congrArg c.dialect.prepare (flatten_rebind_existenceQuery_selectInPlace q)

/-- **Existence checks of queries that were compiled in place before**, any number of times. The
text is that of the check of the query as it was built. The values are those of that check without
the dropped ones in front, so they are the same just if none is dropped, and each one that is
dropped is missing for a question mark of the text. -/
theorem existenceStatement_compiled (n : Nat) {steps : List Step}
    (hbuild : Step.allBuild steps = true) :
    (c.existenceStatement (c.dialect.compiled n (Query.build steps))).sql =
      (c.existenceStatement (Query.build steps)).sql ∧
    (c.existenceStatement (Query.build steps)).values =
      c.dialect.prepare (c.dropped n (Query.build steps)) ++
        (c.existenceStatement (c.dialect.compiled n (Query.build steps))).values ∧
    ((c.existenceStatement (c.dialect.compiled n (Query.build steps))).values =
      (c.existenceStatement (Query.build steps)).values ↔ c.dropped n (Query.build steps) = []) ∧
    (Unmarked c.settings.tablePrefix → Step.AllTidy steps →
      (c.existenceStatement (c.dialect.compiled n (Query.build steps))).sql.toList.count '?' =
        (c.existenceStatement (c.dialect.compiled n (Query.build steps))).values.length +
          (c.dropped n (Query.build steps)).length) := by
  have hsql := sql_existenceStatement_compiled (c := c) n (Query.build steps)
  have hvalues := values_existenceStatement_compiled (c := c) n (Query.build steps)
  refine ⟨hsql, hvalues, ?_, fun hprefix htidy => ?_⟩
  · rw [hvalues, List.self_eq_append_left, Dialect.prepare_eq_nil]
  · have hcount := (c.tying hprefix).count_select (Step.allBuild_existenceSteps hbuild)
      (Step.allTidy_existenceSteps htidy)
    rw [Step.build_existenceSteps hbuild] at hcount
    have hfresh : (c.existenceStatement (Query.build steps)).sql.toList.count '?' =
        (c.existenceStatement (Query.build steps)).values.length :=
      hcount.trans (Dialect.length_prepare _ _).symm
    rw [hsql, hfresh, hvalues, List.length_append, Dialect.length_prepare, Nat.add_comm]

/-- The active users by their distance from one of them, without the first three. -/
def activeSteps : List Step :=
  [.source "users",
    .compare .and (.named "active") "=" (.literal (.bool true)),
    .orderByRaw "abs(id - ?)" [.int 9],
    .offset 3]

theorem existenceStatement_compiled_activeSteps :
    Step.allBuild activeSteps = true ∧ Unmarked ({} : Connection).settings.tablePrefix ∧
    Step.AllTidy activeSteps ∧
    (({} : Connection).existenceStatement (Query.build activeSteps)).values =
      .int 9 ::
        (({} : Connection).existenceStatement
          (({} : Connection).dialect.compiled 2 (Query.build activeSteps))).values ∧
    (({} : Connection).existenceStatement
        (({} : Connection).dialect.compiled 2 (Query.build activeSteps))).sql.toList.count '?' =
      (({} : Connection).existenceStatement
        (({} : Connection).dialect.compiled 2 (Query.build activeSteps))).values.length + 1 := by
  have hprefix : Unmarked ({} : Connection).settings.tablePrefix := by decide
  have htidy : Step.AllTidy activeSteps := by
    simp only [activeSteps, Step.AllTidy, Step.Tidy, Column.Unmarked, Operand.Unmarked]
    decide
  have hall := @existenceStatement_compiled {} 2 activeSteps rfl
  exact ⟨rfl, hprefix, htidy, hall.2.1, hall.2.2.2 hprefix htidy⟩

/-- Compiled in place once, the query has an existence check with two question marks and one
value. -/
theorem existenceStatement_compiled_ne :
    (({} : Connection).existenceStatement (Query.build activeSteps)).values =
      [.int 9, .bool true] ∧
    (({} : Connection).existenceStatement
        (({} : Connection).dialect.compiled 1 (Query.build activeSteps))).values =
      [.bool true] ∧
    (({} : Connection).existenceStatement
        (({} : Connection).dialect.compiled 1 (Query.build activeSteps))).sql =
      "select * from (select 1 exists, row_number() over (order by abs(id - ?)) as row_num " ++
        "from \"users\" where \"active\" = ?) as temp_table where row_num between 4 and 4" ∧
    ¬ ∀ (n : Nat) (steps : List Step), Step.allBuild steps = true →
      (({} : Connection).existenceStatement
          (({} : Connection).dialect.compiled n (Query.build steps))).values =
        (({} : Connection).existenceStatement (Query.build steps)).values := by
  refine ⟨rfl, rfl, by decide +kernel, fun hall => ?_⟩
  have hsame := hall 1 activeSteps rfl
  exact absurd (congrArg List.length hsame) (by decide)

end Db2.Connection

end SqlDialect
