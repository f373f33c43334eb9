import SqlDialect.Proofs.Additions
import SqlDialect.Proofs.ValueIndependence

/-!
# Queries that are built when needed

A sub-query can be given as a query or as a way to build one. The second is built once for its
values, when the condition is added, and again for its text. Both come to the same: building every
sub-query at once, at any depth (`Query.eager`, and `Step.eager` for the steps of a query), leaves
the values and every text as they are (`Query.build_eager_alike`).

The steps may hold changes that are no building methods, as long as these do the same whether
sub-queries are there or wait to be built (`Step.Impartial`). A change of the bindings is of this
kind.
-/

namespace SqlDialect

/-! ## Building at once -/

mutual

/-- The query with all its sub-queries built, at every depth. -/
def Query.eager : Query → Query
  | ⟨distinct, columns, source, joins, conditions, groups, havings, orders, limit, offset,
      bindings⟩ =>
    ⟨distinct, columns, source, joins, Clause.allEager conditions, groups, havings, orders, limit,
      offset, bindings⟩

/-- The conditions with all their sub-queries built. -/
def Clause.allEager : List Clause → List Clause
  | [] => []
  | clause :: rest => clause.eager :: Clause.allEager rest

/-- The condition with all its sub-queries built. -/
def Clause.eager : Clause → Clause
  | ⟨connective, predicate⟩ => ⟨connective, predicate.eager⟩

/-- The predicate with all its sub-queries built. -/
def Predicate.eager : Predicate → Predicate
  | .member column source negated => .member column source.eager negated
  | .group clauses => .group (Clause.allEager clauses)
  | .hasRows query negated => .hasRows query.eager negated
  | p => p

/-- The source with its sub-query built, and the sub-queries of this one. -/
def Source.eager : Source → Source
  | .list operands => .list operands
  | .query query => .query query.eager
  | .deferred build => .query (build ()).eager

end

theorem Clause.allEager_eq_map (clauses : List Clause) :
    Clause.allEager clauses = clauses.map Clause.eager := by
  induction clauses with
  | nil => rfl
  | cons clause rest ih => rw [Clause.allEager, ih, List.map_cons]

namespace Query

@[simp] theorem eager_conditions (q : Query) :
    q.eager.conditions = q.conditions.map Clause.eager := by
  cases q
  exact Clause.allEager_eq_map _

@[simp] theorem eager_bindings (q : Query) : q.eager.bindings = q.bindings := by
  cases q
  rfl

/-- Only the conditions change. -/
theorem eager_eq (q : Query) :
    q.eager = { q with conditions := q.conditions.map Clause.eager } := by
  cases q
  simp only [eager, Clause.allEager_eq_map]

theorem eager_addCondition (q : Query) (connective : Connective) (p : Predicate)
    (values : List Value) :
    (q.addCondition connective p values).eager =
      q.eager.addCondition connective p.eager values := by
  simp only [eager_eq, addCondition, List.map_append, List.map_singleton, Clause.eager]

end Query

/-! ## Steps -/

mutual

/-- The step that adds its sub-query as a query, and so for the steps of the sub-query. -/
def Step.eager : Step → Step
  | .inQuery column steps negated => .inQuery column (Step.allEager steps) negated
  | .inDeferred column steps => .inQuery column (Step.allEager steps) false
  | .group steps => .group (Step.allEager steps)
  | .hasRows steps negated => .hasRows (Step.allEager steps) negated
  | step => step

/-- The steps that add their sub-queries as queries, at every depth. -/
def Step.allEager : List Step → List Step
  | [] => []
  | step :: steps => step.eager :: Step.allEager steps

end

mutual

/-- The changes in the step do the same whether sub-queries are there or wait to be built. -/
def Step.Impartial : Step → Prop
  | .inQuery _ steps _ => Step.AllImpartial steps
  | .inDeferred _ steps => Step.AllImpartial steps
  | .group steps => Step.AllImpartial steps
  | .hasRows steps _ => Step.AllImpartial steps
  | .change f => ∀ q : Query, f q.eager = (f q).eager
  | _ => True

/-- The changes in the steps, at any depth, do the same whether sub-queries are there or wait to be
built. -/
def Step.AllImpartial : List Step → Prop
  | [] => True
  | step :: steps => step.Impartial ∧ Step.AllImpartial steps

end

namespace Step

variable {step : Step} {steps : List Step}

theorem allImpartial_iff : AllImpartial steps ↔ ∀ step ∈ steps, step.Impartial := by
  induction steps with
  | nil => simp [AllImpartial]
  | cons step steps ih => simp [AllImpartial, ih]

theorem Impartial.nested (h : step.Impartial) (hn : step.nested? = some steps) :
    AllImpartial steps := by
  cases step <;> simp only [nested?, Option.some.injEq, reduceCtorEq] at hn <;> exact hn ▸ h

/-- Building methods bring no changes of their own. -/
theorem allImpartial_of_allBuild (h : allBuild steps = true) : AllImpartial steps := by
  induction steps using Step.induction with
  | h steps ih =>
    refine allImpartial_iff.2 fun step hmem => ?_
    have hstep := allBuild_iff.1 h step hmem
    cases step with
    | change f => cases hstep
    | inQuery column sub negated => exact ih _ hmem sub rfl hstep
    | inDeferred column sub => exact ih _ hmem sub rfl hstep
    | group sub => exact ih _ hmem sub rfl hstep
    | hasRows sub negated => exact ih _ hmem sub rfl hstep
    | _ => trivial

/-- A change of the bindings does not look at the conditions. -/
theorem impartial_rebound (f : Bindings → Bindings) :
    (change fun q => { q with bindings := f q.bindings }).Impartial := by
  intro q
  cases q
  rfl

/-- **A step does the same as the one that builds its sub-query at once**, up to what waits to be
built. -/
theorem run_eager (h : step.Impartial)
    (hsub : ∀ sub, step.nested? = some sub → Query.build (allEager sub) = (Query.build sub).eager)
    (q : Query) : step.eager.run q.eager = (step.run q).eager := by
  have hbuild : ∀ {sub}, step.nested? = some sub →
      runAll .empty (allEager sub) = (runAll .empty sub).eager := fun hn => hsub _ hn
  cases step with
  | change f => exact h q
  | inQuery column sub negated =>
    rw [eager, run, run, hbuild rfl, Query.inQuery, Query.inQuery, Query.eager_addCondition,
      Query.eager_bindings]
    rfl
  | inDeferred column sub =>
    rw [eager, run, run, hbuild rfl, Query.inQuery, Query.inDeferred, Query.eager_addCondition,
      Query.eager_bindings]
    rfl
  | group sub =>
    rw [eager, run, run, hbuild rfl, Query.group, Query.group, Query.eager_conditions,
      Query.eager_bindings, List.isEmpty_map]
    split
    · rfl
    · rw [Query.eager_addCondition, Predicate.eager, Clause.allEager_eq_map]
  | hasRows sub negated =>
    rw [eager, run, run, hbuild rfl, Query.hasRows, Query.hasRows, Query.eager_addCondition,
      Query.eager_bindings]
    rfl
  | _ =>
    simp [eager, run_eq, Query.eager_eq, clauses, Clause.eager, Predicate.eager, Source.eager]

/-- A run does the same as the one that builds its sub-queries at once, if it is so for the steps of
these. -/
theorem runAll_eager (h : AllImpartial steps)
    (hsub : ∀ step ∈ steps, ∀ sub, step.nested? = some sub →
      Query.build (allEager sub) = (Query.build sub).eager) (q : Query) :
    runAll q.eager (allEager steps) = (runAll q steps).eager := by
  induction steps generalizing q with
  | nil => rfl
  | cons step steps ih =>
    obtain ⟨hstep, hsteps⟩ := h
    have hrest := ih hsteps fun other hmem => hsub other (List.mem_cons_of_mem step hmem)
    rw [allEager, runAll, runAll, run_eager hstep (hsub step List.mem_cons_self), hrest]

/-- **Steps build the same as the ones that build every sub-query at once**, up to what waits to be
built. -/
theorem build_allEager (h : AllImpartial steps) :
    Query.build (allEager steps) = (Query.build steps).eager := by
  induction steps using Step.induction with
  | h steps ih =>
    refine runAll_eager h (fun step hmem sub hsub => ?_) .empty
    exact ih step hmem sub hsub ((allImpartial_iff.1 h step hmem).nested hsub)

end Step

/-! ## Texts -/

namespace Dialect

variable {d : Dialect}

theorem Provided.assemble_eager (h : d.Provided) (q : Query) (fragments : Fragments) :
    d.assemble q.eager fragments = d.assemble q fragments := by
  cases h <;> cases q <;> rfl

theorem Provided.rebind_eager (h : d.Provided) (q : Query) : d.rebind q.eager = d.rebind q := by
  cases h <;> cases q <;> rfl

theorem conditionTexts_eager {clauses : List Clause}
    (h : ∀ clause ∈ clauses, d.predicate clause.predicate.eager = d.predicate clause.predicate) :
    d.conditionTexts (clauses.map Clause.eager) = d.conditionTexts clauses := by
  rw [conditionTexts_eq_map, conditionTexts_eq_map, List.map_map]
  refine List.map_congr_left fun clause hmem => ?_
  have hpredicate := h clause hmem
  cases clause
  simp only [Function.comp_apply, Clause.eager, hpredicate]

/-- **The text of a query is the same if all its sub-queries are built at once**, and so is the text
of a predicate. -/
theorem Provided.select_and_predicate_eager (h : d.Provided) :
    (∀ q : Query, d.select q.eager = d.select q) ∧
      ∀ p : Predicate, d.predicate p.eager = d.predicate p := by
  refine Query.induction (fun q hq => ?_) (fun p hsub hgroup => ?_)
  · have hfragments : d.fragments q.eager = d.fragments q := by
      rw [fragments, fragments, Query.eager_conditions, conditionTexts_eager hq, Query.eager_eq]
      simp only [fragmentsWith, List.isEmpty_map]
      rfl
    rw [select_eq, select_eq, hfragments, h.assemble_eager]
  · cases p with
    | member column source negated =>
      cases source with
      | list operands => rfl
      | query q => simp only [Predicate.eager, Source.eager, predicate, member, hsub q rfl]
      | deferred build =>
        simp only [Predicate.eager, Source.eager, predicate, member, hsub (build ()) rfl]
    | group clauses =>
      have htexts : d.conditionTexts (clauses.map Clause.eager) = d.conditionTexts clauses :=
        conditionTexts_eager hgroup
      rw [← Clause.allEager_eq_map] at htexts
      simp only [Predicate.eager, predicate, htexts]
    | hasRows q negated => simp only [Predicate.eager, predicate, hsub q rfl]
    | _ => rfl

theorem Provided.select_eager (h : d.Provided) (q : Query) : d.select q.eager = d.select q :=
  h.select_and_predicate_eager.1 q

theorem Provided.statement_eager (h : d.Provided) (q : Query) :
    d.statement q.eager = d.statement q := by
  rw [statement, statement, h.select_eager, h.rebind_eager]

end Dialect

theorem Db2.existenceQuery_eager (q : Query) :
    existenceQuery q.eager = (existenceQuery q).eager := by
  cases q
  rfl

theorem Dialect.Provided.hasRows_eager {d : Dialect} (h : d.Provided) (q : Query) :
    d.hasRows q.eager = d.hasRows q := by
  have hselect := h.select_eager
  cases h with
  | generic tablePrefix =>
    show Spelling.existsColumn _ _ = Spelling.existsColumn _ _
    rw [hselect q]
  | db2 c =>
    show c.dialect.select (Db2.existenceQuery q.eager) = c.dialect.select (Db2.existenceQuery q)
    rw [Db2.existenceQuery_eager, hselect]

/-- **A sub-query may be given as a query or built when needed.** Steps that add some of their
sub-queries in the second way, at any depth, build a query with the same values in each category as
the steps that add all of them in the first way, and every dialect writes the same statement and the
same existence check for the two, with the same values. -/
theorem Query.build_eager_alike {steps : List Step} (h : Step.AllImpartial steps) :
    (build (Step.allEager steps)).bindings = (build steps).bindings ∧
    (∀ d : Dialect, d.Provided →
      d.select (build (Step.allEager steps)) = d.select (build steps) ∧
      d.hasRows (build (Step.allEager steps)) = d.hasRows (build steps) ∧
      d.statement (build (Step.allEager steps)) = d.statement (build steps)) ∧
    ∀ c : Db2.Connection,
      c.statement (build (Step.allEager steps)) = c.statement (build steps) ∧
      c.existenceStatement (build (Step.allEager steps)) = c.existenceStatement (build steps) := by
  rw [Step.build_allEager h]
  refine ⟨eager_bindings _, fun d hd => ⟨hd.select_eager _, hd.hasRows_eager _,
    hd.statement_eager _⟩, fun c => ?_⟩
  have hdialect : c.dialect.Provided := .db2 c
  refine ⟨hdialect.statement_eager _, ?_⟩
  rw [Db2.Connection.existenceStatement, Db2.Connection.existenceStatement,
    Db2.existenceQuery_eager, hdialect.statement_eager]

/-- A query that is built when needed, inside another one, inside a group. -/
def regionSteps : List Step :=
  [.source "orders",
    .group
      [.inDeferred (.named "customer_id")
        [.source "customers", .select ["id"],
          .inDeferred (.named "region_id")
            [.source "regions", .compare .and (.named "state") "=" (.literal (.text "open"))],
          .orderByRaw "abs(id - ?)" [.int 7], .offset 5]],
    .limit 10]

/-- The steps of `regionSteps` and values of an order that are added by hand. -/
theorem Query.build_eager_alike_regionSteps :
    Step.AllImpartial (regionSteps ++ [.change fun q => q.addBindings .order [.int 1]]) ∧
    ({} : Db2.Connection).statement (build (Step.allEager
        (regionSteps ++ [.change fun q => q.addBindings .order [.int 1]]))) =
      ({} : Db2.Connection).statement (build
        (regionSteps ++ [.change fun q => q.addBindings .order [.int 1]])) := by
  have himpartial :
      Step.AllImpartial (regionSteps ++ [.change fun q => q.addBindings .order [.int 1]]) := by
    refine Step.allImpartial_iff.2 fun step hmem => ?_
    obtain hbuild | hchange := List.mem_append.1 hmem
    · exact Step.allImpartial_iff.1 (Step.allImpartial_of_allBuild rfl) step hbuild
    · obtain rfl := List.mem_singleton.1 hchange
      exact Step.impartial_rebound fun b => b.extend .order [.int 1]
  exact ⟨himpartial, ((Query.build_eager_alike himpartial).2.2 {}).1⟩

end SqlDialect
