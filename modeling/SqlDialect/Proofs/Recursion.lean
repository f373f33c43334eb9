import SqlDialect.Query.Step

/-!
# Induction on queries and on steps

Queries hold predicates and predicates hold queries, in lists and behind functions. What is proved
of all of them is proved once for each level: `Query.induction` asks for a query whose conditions
are known, and for a predicate whose sub-query and whose group are known.

Steps hold steps. `Step.induction` asks for a list of steps in which the steps of every sub-query
and every group are known.
-/

namespace SqlDialect

/-! ## Queries -/

/-- The query whose rows a membership test looks into, if it looks into one. -/
def Source.query? : Source → Option Query
  | .list _ => none
  | .query q => some q
  | .deferred build => some (build ())

/-- The sub-query of a predicate. -/
def Predicate.subquery? : Predicate → Option Query
  | .member _ source _ => source.query?
  | .hasRows q _ => some q
  | _ => none

/-- The conditions that a predicate puts between parentheses. -/
def Predicate.grouped : Predicate → List Clause
  | .group clauses => clauses
  | _ => []

/-- A property of queries and one of predicates hold throughout if each level hands them on. -/
theorem Query.induction {Q : Query → Prop} {P : Predicate → Prop}
    (query : ∀ q : Query, (∀ clause ∈ q.conditions, P clause.predicate) → Q q)
    (predicate : ∀ p : Predicate, (∀ q, p.subquery? = some q → Q q) →
      (∀ clause ∈ p.grouped, P clause.predicate) → P p) :
    (∀ q, Q q) ∧ ∀ p, P p := by
  have leaf : ∀ p : Predicate, p.subquery? = none → p.grouped = [] → P p := by
    intro p hsub hgroup
    refine predicate p (fun q hq => ?_) (fun clause hc => ?_)
    · rw [hsub] at hq
      cases hq
    · rw [hgroup] at hc
      cases hc
  -- The conditions are kept beside the query, so that predicates can be read off at the end.
  have all : ∀ q : Query, Q q ∧ ∀ clause ∈ q.conditions, P clause.predicate := by
    refine @Query.rec (fun q => Q q ∧ ∀ clause ∈ q.conditions, P clause.predicate)
      (fun clause => P clause.predicate) P (fun source => ∀ q, source.query? = some q → Q q)
      (fun clauses => ∀ clause ∈ clauses, P clause.predicate)
      ?query ?clause ?compare ?member ?null ?between ?compareColumns ?raw ?group ?hasRows
      ?list ?sub ?deferred ?nil ?cons
    case query => exact fun _ _ _ _ _ _ _ _ _ _ _ h => ⟨query _ h, h⟩
    case clause => exact fun _ _ h => h
    case compare => exact fun _ _ _ => leaf _ rfl rfl
    case member => exact fun _ _ _ h => predicate _ h (fun _ hc => nomatch hc)
    case null => exact fun _ _ => leaf _ rfl rfl
    case between => exact fun _ _ _ _ => leaf _ rfl rfl
    case compareColumns => exact fun _ => leaf _ rfl rfl
    case raw => exact fun _ => leaf _ rfl rfl
    case group => exact fun _ h => predicate _ (fun _ hq => nomatch hq) h
    case hasRows =>
      intro q _ h
      exact predicate _ (fun r hr => Option.some.inj hr ▸ h.1) (fun _ hc => nomatch hc)
    case list => exact fun _ _ hq => nomatch hq
    case sub => exact fun q h r hr => Option.some.inj hr ▸ h.1
    case deferred => exact fun build h r hr => Option.some.inj hr ▸ (h ()).1
    case nil => exact fun _ hc => nomatch hc
    case cons => exact fun _ _ head tail => List.forall_mem_cons.2 ⟨head, tail⟩
  refine ⟨fun q => (all q).1, fun p => ?_⟩
  exact (all { conditions := [⟨.and, p⟩] }).2 ⟨.and, p⟩ (List.mem_singleton.2 rfl)

/-! ## Steps -/

/-- The steps of the sub-query or of the group that a step adds. -/
def Step.nested? : Step → Option (List Step)
  | .inQuery _ steps _ => some steps
  | .inDeferred _ steps => some steps
  | .group steps => some steps
  | .hasRows steps _ => some steps
  | _ => none

mutual

/-- The steps of the sub-queries of a step, at any depth. -/
def Step.subqueries : Step → List (List Step)
  | .inQuery _ steps _ => steps :: Step.allSubqueries steps
  | .inDeferred _ steps => steps :: Step.allSubqueries steps
  | .group steps => Step.allSubqueries steps
  | .hasRows steps _ => steps :: Step.allSubqueries steps
  | _ => []

/-- The steps of the sub-queries of some steps, at any depth. -/
def Step.allSubqueries : List Step → List (List Step)
  | [] => []
  | step :: steps => step.subqueries ++ Step.allSubqueries steps

end

theorem Step.allSubqueries_eq (steps : List Step) :
    Step.allSubqueries steps = steps.flatMap Step.subqueries := by
  induction steps with
  | nil => rfl
  | cons step steps ih => rw [Step.allSubqueries, ih, List.flatMap_cons]

theorem Step.sizeOf_nested {step : Step} {steps : List Step} (h : step.nested? = some steps) :
    sizeOf steps < sizeOf step := by
  cases step <;> simp only [Step.nested?, Option.some.injEq, reduceCtorEq] at h <;> subst h
  case inQuery column negated =>
    rw [Step.inQuery.sizeOf_spec]
    omega
  case inDeferred column =>
    rw [Step.inDeferred.sizeOf_spec]
    omega
  case group =>
    rw [Step.group.sizeOf_spec]
    omega
  case hasRows negated =>
    rw [Step.hasRows.sizeOf_spec]
    omega

/-- A property of lists of steps holds of all of them if it is handed on from the steps of
sub-queries and groups. -/
theorem Step.induction {P : List Step → Prop}
    (h : ∀ steps : List Step, (∀ step ∈ steps, ∀ sub, step.nested? = some sub → P sub) → P steps)
    (steps : List Step) : P steps := by
  induction hn : sizeOf steps using Nat.strongRecOn generalizing steps with
  | ind n ih =>
    refine h steps fun step hstep sub hsub => ih (sizeOf sub) ?_ sub rfl
    have hsmall := Step.sizeOf_nested hsub
    have hmem := List.sizeOf_lt_of_mem hstep
    omega

end SqlDialect
