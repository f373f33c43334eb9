import SqlDialect.Proofs.Recursion

/-!
# What steps add

A building step sets a few fields of a query and appends to the others: joins, conditions, columns,
sort keys, and the values that it binds for one category. `Step.run_eq` says at once what a step
does to every field, by functions of the step alone. What a list of steps appends follows by one
induction (`Step.runAll_append_of_run`), and the lists of `Query.build` are those of its steps put
together.
-/

namespace SqlDialect

namespace Step

/-! ## The parts of a step -/

/-- The table that a step selects from. -/
def source? : Step → Option String
  | .source table => some table
  | _ => none

/-- The columns that a step adds, if it selects columns. -/
def columns? : Step → Option (List Column)
  | .select names => some (names.map .named)
  | .selectRaw sql _ => some [.raw sql]
  | _ => none

/-- Whether a step asks for distinct rows. -/
def asksDistinct : Step → Bool
  | .distinct => true
  | _ => false

/-- The joins that a step adds. -/
def joins : Step → List Join
  | .join kind table first operator second =>
    [⟨kind, table, [⟨.named first, operator, .named second⟩]⟩]
  | .crossJoin table => [⟨.cross, table, []⟩]
  | _ => []

/-- The conditions that a step adds. A group without conditions is not added. -/
def clauses : Step → List Clause
  | .compare connective column operator operand =>
    [⟨connective, .compare column operator operand⟩]
  | .like column pattern negated =>
    [⟨.and, .compare column (if negated then "not like" else "like") pattern⟩]
  | .inList column operands negated => [⟨.and, .member column (.list operands) negated⟩]
  | .inQuery column steps negated =>
    [⟨.and, .member column (.query (Query.build steps)) negated⟩]
  | .inDeferred column steps =>
    [⟨.and, .member column (.deferred fun _ => Query.build steps) false⟩]
  | .null column negated => [⟨.and, .null column negated⟩]
  | .between column low high negated => [⟨.and, .between column low high negated⟩]
  | .compareColumns first operator second =>
    [⟨.and, .compareColumns ⟨.named first, operator, .named second⟩⟩]
  | .conditionRaw sql _ => [⟨.and, .raw sql⟩]
  | .group steps =>
    if (Query.build steps).conditions.isEmpty then []
    else [⟨.and, .group (Query.build steps).conditions⟩]
  | .hasRows steps negated => [⟨.and, .hasRows (Query.build steps) negated⟩]
  | _ => []

/-- The columns that a step groups by. -/
def groups : Step → List Column
  | .groupBy names => names.map .named
  | _ => []

/-- The conditions on groups that a step adds. -/
def havings : Step → List Having
  | .having name operator operand => [⟨.and, .compare (.named name) operator operand⟩]
  | .havingRaw sql _ => [⟨.and, .raw sql⟩]
  | _ => []

/-- The sort keys that a step adds. -/
def orders : Step → List SortKey
  | .orderBy name direction => [.column (.named name) direction]
  | .orderByRaw sql _ => [.raw sql]
  | _ => []

/-- The limit that a step sets. -/
def limit? : Step → Option UInt64
  | .limit rows => some rows
  | _ => none

/-- The offset that a step sets. -/
def offset? : Step → Option UInt64
  | .offset rows => some rows
  | _ => none

/-- The category for which a step binds its values. -/
def category : Step → Category
  | .selectRaw _ _ => .select
  | .having _ _ _ => .having
  | .havingRaw _ _ => .having
  | .orderByRaw _ _ => .order
  | _ => .condition

/-- The values that a step binds. Of a group these are the values of its conditions, of a sub-query
all of its values. -/
def bound : Step → List Value
  | .selectRaw _ values => values
  | .compare _ _ _ operand => operand.values
  | .like _ pattern _ => pattern.values
  | .inList _ operands _ => operands.flatMap Operand.values
  | .inQuery _ steps _ => (Query.build steps).bindings.flatten
  | .inDeferred _ steps => (Query.build steps).bindings.flatten
  | .between _ low high _ => low.values ++ high.values
  | .conditionRaw _ values => values
  | .group steps =>
    if (Query.build steps).conditions.isEmpty then []
    else (Query.build steps).bindings.get .condition
  | .hasRows steps _ => (Query.build steps).bindings.flatten
  | .having _ _ operand => operand.values
  | .havingRaw _ values => values
  | .orderByRaw _ values => values
  | _ => []

/-- The values that a step binds for a category. -/
def values (c : Category) (step : Step) : List Value := if c = step.category then step.bound else []

/-- The select list with the columns of a step behind those that are there. -/
def selectMore (step : Step) (columns : Option (List Column)) : Option (List Column) :=
  match step.columns? with
  | some more => some (columns.getD [] ++ more)
  | none => columns

/-! ## One step -/

variable {step : Step}

theorem ne_change (h : step.builds = true) (f : Query → Query) : step ≠ .change f := by
  rintro rfl
  cases h

/-- **What a building step does to a query**, field by field. The steps of its sub-query may be any
steps. -/
theorem run_eq (h : ∀ f, step ≠ .change f) (q : Query) :
    step.run q =
      { distinct := q.distinct || step.asksDistinct
        columns := step.selectMore q.columns
        source := step.source?.or q.source
        joins := q.joins ++ step.joins
        conditions := q.conditions ++ step.clauses
        groups := q.groups ++ step.groups
        havings := q.havings ++ step.havings
        orders := q.orders ++ step.orders
        limit := step.limit?.or q.limit
        offset := step.offset?.or q.offset
        bindings := q.bindings.extend step.category step.bound } := by
  cases q
  cases step with
  | change f => exact absurd rfl (h f)
  | group steps =>
    have hbuild : Step.runAll .empty steps = Query.build steps := rfl
    simp only [run, Query.group, hbuild, clauses, bound]
    split
    · simp [asksDistinct, selectMore, columns?, source?, joins, groups, havings, orders, limit?,
        offset?, Bindings.extend]
    · simp [asksDistinct, selectMore, columns?, source?, joins, groups, havings, orders, limit?,
        offset?, category, Query.addCondition]
  | _ => simp [run, Query.withSource, Query.select, Query.selectRaw, Query.selectDistinct,
      Query.join, Query.crossJoin, Query.compare, Query.like, Query.inList, Query.inQuery,
      Query.inDeferred, Query.null, Query.between, Query.compareColumns, Query.conditionRaw,
      Query.hasRows, Query.addCondition, Query.groupBy, Query.having, Query.havingRaw,
      Query.orderBy, Query.orderByRaw, Query.take, Query.skip, Query.build, asksDistinct,
      selectMore, columns?, source?, joins, clauses, groups, havings, orders, limit?, offset?,
      category, bound, Bindings.extend]

theorem columns_run (h : step.builds = true) (q : Query) :
    (step.run q).columns.getD [] = q.columns.getD [] ++ step.columns?.getD [] := by
  rw [run_eq (ne_change h)]
  cases hmore : step.columns? <;> simp [selectMore, hmore]

theorem get_bindings_run (h : step.builds = true) (q : Query) (c : Category) :
    (step.run q).bindings.get c = q.bindings.get c ++ step.values c := by
  rw [run_eq (ne_change h), Bindings.get_extend, values]
  split
  · next hc => rw [hc]
  · rw [List.append_nil]

/-! ## Steps one after another -/

variable {steps : List Step}

theorem allBuild_iff : allBuild steps = true ↔ ∀ step ∈ steps, step.builds = true := by
  induction steps with
  | nil => simp [allBuild]
  | cons step steps ih => simp [allBuild, ih]

theorem allBuild_nested (h : step.builds = true) (hn : step.nested? = some steps) :
    allBuild steps = true := by
  cases step <;> simp only [nested?, Option.some.injEq, reduceCtorEq] at hn <;> exact hn ▸ h

/-- A list to which each step appends ends in what the steps append, in order. -/
theorem runAll_append_of_run {α : Type} (list : Query → List α) (added : Step → List α)
    (hrun : ∀ (step : Step) (q : Query), step.builds = true →
      list (step.run q) = list q ++ added step)
    (h : allBuild steps = true) (q : Query) :
    list (runAll q steps) = list q ++ steps.flatMap added := by
  induction steps generalizing q with
  | nil => simp [runAll]
  | cons step steps ih =>
    obtain ⟨hstep, hsteps⟩ := Bool.and_eq_true_iff.1 h
    rw [runAll, ih hsteps, hrun step q hstep, List.flatMap_cons, List.append_assoc]

theorem get_bindings_runAll (h : allBuild steps = true) (q : Query) (c : Category) :
    (runAll q steps).bindings.get c = q.bindings.get c ++ steps.flatMap (Step.values c) :=
  runAll_append_of_run (fun q => q.bindings.get c) (Step.values c)
    (fun _ q hstep => get_bindings_run hstep q c) h q

/-- What steps do to the other fields of a query does not depend on its bindings. -/
theorem runAll_rebound (h : allBuild steps = true) (q : Query) (b : Bindings) :
    ∃ b', runAll { q with bindings := b } steps = { runAll q steps with bindings := b' } := by
  induction steps generalizing q b with
  | nil => exact ⟨b, rfl⟩
  | cons step steps ih =>
    obtain ⟨hstep, hsteps⟩ := Bool.and_eq_true_iff.1 h
    have hrun : step.run { q with bindings := b } =
        { step.run q with bindings := b.extend step.category step.bound } := by
      rw [run_eq (ne_change hstep), run_eq (ne_change hstep)]
    rw [runAll, runAll, hrun]
    exact ih hsteps (step.run q) (b.extend step.category step.bound)

end Step

namespace Query

open Step

variable {steps : List Step} (h : Step.allBuild steps = true)

include h

theorem columns_build :
    (build steps).columns.getD [] = steps.flatMap fun step => step.columns?.getD [] :=
  runAll_append_of_run (fun q => q.columns.getD []) _ (fun _ q hstep => columns_run hstep q) h
    .empty

theorem joins_build : (build steps).joins = steps.flatMap Step.joins :=
  runAll_append_of_run Query.joins _ (fun _ q hstep => by rw [run_eq (ne_change hstep)]) h .empty

theorem conditions_build : (build steps).conditions = steps.flatMap Step.clauses :=
  runAll_append_of_run Query.conditions _ (fun _ q hstep => by rw [run_eq (ne_change hstep)]) h
    .empty

theorem groups_build : (build steps).groups = steps.flatMap Step.groups :=
  runAll_append_of_run Query.groups _ (fun _ q hstep => by rw [run_eq (ne_change hstep)]) h .empty

theorem havings_build : (build steps).havings = steps.flatMap Step.havings :=
  runAll_append_of_run Query.havings _ (fun _ q hstep => by rw [run_eq (ne_change hstep)]) h .empty

theorem orders_build : (build steps).orders = steps.flatMap Step.orders :=
  runAll_append_of_run Query.orders _ (fun _ q hstep => by rw [run_eq (ne_change hstep)]) h .empty

/-- The values of a category are those that the steps bind for it. -/
theorem get_bindings_build (c : Category) :
    (build steps).bindings.get c = steps.flatMap (Step.values c) := by
  have hempty : (empty : Query).bindings.get c = [] := Bindings.get_empty c
  rw [build, get_bindings_runAll h, hempty, List.nil_append]

/-- Without conditions, no values are bound for them. -/
theorem get_condition_build_eq_nil (hnone : (build steps).conditions = []) :
    (build steps).bindings.get .condition = [] := by
  rw [conditions_build h, List.flatMap_eq_nil_iff] at hnone
  rw [get_bindings_build h, List.flatMap_eq_nil_iff]
  intro step hstep
  have hclauses := hnone step hstep
  cases step with
  | group steps =>
    simp only [Step.clauses, ite_eq_left_iff, List.cons_ne_nil, imp_false,
      Decidable.not_not] at hclauses
    simp [Step.values, Step.bound, hclauses]
  | _ => simp_all [Step.values, Step.category, Step.bound, Step.clauses]

/-- A query selects from the table of one of its steps. -/
theorem mem_of_source_build {table : String} (hs : (build steps).source = some table) :
    .source table ∈ steps := by
  have run : ∀ q : Query, (runAll q steps).source = some table →
      .source table ∈ steps ∨ q.source = some table := by
    clear hs
    intro q
    induction steps generalizing q with
    | nil => exact .inr
    | cons step steps ih =>
      obtain ⟨hstep, hsteps⟩ := Bool.and_eq_true_iff.1 h
      intro hrun
      rcases ih hsteps (step.run q) hrun with hmem | hsource
      · exact .inl (List.mem_cons_of_mem step hmem)
      · rw [run_eq (ne_change hstep)] at hsource
        cases step <;> simp_all [Step.source?]
  exact (run .empty hs).resolve_right nofun

end Query

end SqlDialect
