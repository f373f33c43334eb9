import SqlDialect.Dialect.Select
import SqlDialect.Proofs.Additions

/-!
# Steps that commute

A building step works on one part of a query, its facet: it sets or extends the clause of that part
and binds values for no other (`Step.bound_eq_nil_or_facet?_eq`). So two steps with different facets
can be taken in either order (`Step.run_comm`), and a query hangs on the order of its steps only
among those with the same facet (`Step.runAll_congr`).
-/

namespace SqlDialect

/-- The parts of a query of which every building step works on one. -/
inductive Facet
  | columns
  | source
  | distinct
  | joins
  | conditions
  | groups
  | havings
  | orders
  | limit
  | offset
  deriving DecidableEq, Repr

/-- The part of a query whose text holds the placeholders of a category. -/
def Category.facet : Category → Facet
  | .select => .columns
  | .condition => .conditions
  | .having => .havings
  | .order => .orders

theorem Category.facet_injective {c d : Category} (h : c.facet = d.facet) : c = d := by
  cases c <;> cases d <;> first | rfl | cases h

namespace Step

/-- The part of the query that a building step works on. -/
def facet? : Step → Option Facet
  | .source _ => some .source
  | .select _ => some .columns
  | .selectRaw _ _ => some .columns
  | .distinct => some .distinct
  | .join _ _ _ _ _ => some .joins
  | .crossJoin _ => some .joins
  | .compare _ _ _ _ => some .conditions
  | .like _ _ _ => some .conditions
  | .inList _ _ _ => some .conditions
  | .inQuery _ _ _ => some .conditions
  | .inDeferred _ _ => some .conditions
  | .null _ _ => some .conditions
  | .between _ _ _ _ => some .conditions
  | .compareColumns _ _ _ => some .conditions
  | .conditionRaw _ _ => some .conditions
  | .group _ => some .conditions
  | .hasRows _ _ => some .conditions
  | .groupBy _ => some .groups
  | .having _ _ _ => some .havings
  | .havingRaw _ _ => some .havings
  | .orderBy _ _ => some .orders
  | .orderByRaw _ _ => some .orders
  | .limit _ => some .limit
  | .offset _ => some .offset
  | .change _ => none

/-- Those of the steps that work on a part of the query. -/
def on (f : Facet) (steps : List Step) : List Step :=
  steps.filter fun step => step.facet? = some f

/-! ## What a step leaves alone -/

/-- A step adds nothing to a part of the query. -/
def Idle (step : Step) : Facet → Prop
  | .columns => step.columns? = none
  | .source => step.source? = none
  | .distinct => step.asksDistinct = false
  | .joins => step.joins = []
  | .conditions => step.clauses = []
  | .groups => step.groups = []
  | .havings => step.havings = []
  | .orders => step.orders = []
  | .limit => step.limit? = none
  | .offset => step.offset? = none

theorem idle_of_facet?_ne {step : Step} {f : Facet} (h : step.facet? ≠ some f) : step.Idle f := by
  cases step <;> cases f <;> first | exact absurd rfl h | rfl

/-- A step binds values only for the part that it works on. -/
theorem bound_eq_nil_or_facet?_eq (step : Step) :
    step.bound = [] ∨ step.facet? = some step.category.facet := by
  cases step <;> first | exact .inr rfl | exact .inl rfl

theorem ne_change_of_facet? {step : Step} {f : Facet} (h : step.facet? = some f)
    (change : Query → Query) : step ≠ .change change := by
  rintro rfl
  cases h

/-! ## Two steps -/

theorem append_append_comm {α : Type} {l m n : List α} (h : m = [] ∨ n = []) :
    l ++ m ++ n = l ++ n ++ m := by
  rcases h with rfl | rfl <;> simp

theorem or_or_comm {α : Type} {o p r : Option α} (h : o = none ∨ p = none) :
    p.or (o.or r) = o.or (p.or r) := by
  rcases h with rfl | rfl <;> simp

section Pair

variable {a b : Step} {f g : Facet} (ha : a.facet? = some f) (hb : b.facet? = some g)
  (hne : f ≠ g)

include ha hb hne

theorem idle_or_idle (part : Facet) : a.Idle part ∨ b.Idle part := by
  by_cases hf : f = part
  · exact .inr (idle_of_facet?_ne fun h => hne (hf.trans (Option.some.inj (h.symm.trans hb))))
  · exact .inl (idle_of_facet?_ne fun h => hf (Option.some.inj (ha.symm.trans h)))

theorem extend_bound_comm (bindings : Bindings) :
    (bindings.extend a.category a.bound).extend b.category b.bound =
      (bindings.extend b.category b.bound).extend a.category a.bound := by
  rcases a.bound_eq_nil_or_facet?_eq with hnone | hfacet
  · rw [hnone, Bindings.extend_nil, Bindings.extend_nil]
  · rcases b.bound_eq_nil_or_facet?_eq with hnone | hfacet'
    · rw [hnone, Bindings.extend_nil, Bindings.extend_nil]
    · refine Bindings.extend_extend_of_ne (fun hcategory => hne ?_) bindings a.bound b.bound
      rw [ha] at hfacet
      rw [hb, ← hcategory, ← hfacet] at hfacet'
      exact (Option.some.inj hfacet').symm

theorem selectMore_comm (columns : Option (List Column)) :
    b.selectMore (a.selectMore columns) = a.selectMore (b.selectMore columns) := by
  have hnone : a.columns? = none ∨ b.columns? = none := idle_or_idle ha hb hne .columns
  rcases hnone with hnone | hnone <;> simp only [selectMore, hnone]

/-- **Steps on different parts of a query commute.** -/
theorem run_comm (q : Query) : b.run (a.run q) = a.run (b.run q) := by
  have hidle := idle_or_idle ha hb hne
  rw [run_eq (ne_change_of_facet? ha), run_eq (ne_change_of_facet? ha),
    run_eq (ne_change_of_facet? hb), run_eq (ne_change_of_facet? hb)]
  simp only [Query.mk.injEq]
  refine ⟨?distinct, ?columns, ?source, ?joins, ?conditions, ?groups, ?havings, ?orders, ?limit,
    ?offset, ?bindings⟩
  case distinct => exact Bool.or_right_comm q.distinct a.asksDistinct b.asksDistinct
  case columns => exact selectMore_comm ha hb hne q.columns
  case source => exact or_or_comm (hidle .source)
  case joins => exact append_append_comm (hidle .joins)
  case conditions => exact append_append_comm (hidle .conditions)
  case groups => exact append_append_comm (hidle .groups)
  case havings => exact append_append_comm (hidle .havings)
  case orders => exact append_append_comm (hidle .orders)
  case limit => exact or_or_comm (hidle .limit)
  case offset => exact or_or_comm (hidle .offset)
  case bindings => exact extend_bound_comm ha hb hne q.bindings

end Pair

/-! ## Steps in another order -/

variable {steps more : List Step}

theorem on_cons_of_facet? {step : Step} {f : Facet} (h : step.facet? = some f) :
    on f (step :: steps) = step :: on f steps :=
  List.filter_cons_of_pos (by simp [h])

theorem on_cons_of_ne {step : Step} {f : Facet} (h : step.facet? ≠ some f) :
    on f (step :: steps) = on f steps :=
  List.filter_cons_of_neg (by simp [h])

theorem on_append (f : Facet) : on f (steps ++ more) = on f steps ++ on f more :=
  List.filter_append steps more

/-- A step can be taken before steps that work on other parts. -/
theorem runAll_append_cons {step : Step} {f : Facet} (hstep : step.facet? = some f)
    (hother : ∀ other ∈ steps, ∃ g, other.facet? = some g ∧ g ≠ f) (q : Query) :
    runAll q (steps ++ step :: more) = runAll q (step :: (steps ++ more)) := by
  induction steps generalizing q with
  | nil => rfl
  | cons other steps ih =>
    obtain ⟨⟨g, hg, hne⟩, hrest⟩ := List.forall_mem_cons.1 hother
    calc runAll q (other :: steps ++ step :: more)
        = runAll (other.run q) (step :: (steps ++ more)) := ih hrest (other.run q)
      _ = runAll (step.run (other.run q)) (steps ++ more) := rfl
      _ = runAll (other.run (step.run q)) (steps ++ more) := by rw [run_comm hg hstep hne]

/-- **The order of steps matters only among those on the same part of the query.** -/
theorem runAll_congr (hsteps : ∀ step ∈ steps, step.facet?.isSome)
    (hmore : ∀ step ∈ more, step.facet?.isSome) (h : ∀ f, on f steps = on f more) (q : Query) :
    runAll q steps = runAll q more := by
  induction steps generalizing more q with
  | nil =>
    cases more with
    | nil => rfl
    | cons step more =>
      obtain ⟨f, hf⟩ := Option.isSome_iff_exists.1 (hmore step List.mem_cons_self)
      have hnone : [] = step :: on f more := (h f).trans (on_cons_of_facet? hf)
      cases hnone
  | cons step steps ih =>
    obtain ⟨hstep, hsteps⟩ := List.forall_mem_cons.1 hsteps
    obtain ⟨f, hf⟩ := Option.isSome_iff_exists.1 hstep
    -- The first step is the first of its part in the other list too, and can be moved to the front.
    have hfirst : on f more = step :: on f steps := (h f).symm.trans (on_cons_of_facet? hf)
    obtain ⟨front, back, rfl, hfront, -, hback⟩ := List.filter_eq_cons_iff.1 hfirst
    have hother : ∀ other ∈ front, ∃ g, other.facet? = some g ∧ g ≠ f := by
      intro other hmem
      obtain ⟨g, hg⟩ := Option.isSome_iff_exists.1 (hmore other (List.mem_append_left _ hmem))
      exact ⟨g, hg, fun hgf => hfront other hmem (by simp [hg, hgf])⟩
    rw [runAll_append_cons hf hother]
    refine ih hsteps (fun other hmem => hmore other ?_) (fun g => ?_) (step.run q)
    · rcases List.mem_append.1 hmem with hmem | hmem
      · exact List.mem_append_left _ hmem
      · exact List.mem_append_right _ (List.mem_cons_of_mem step hmem)
    · by_cases hgf : step.facet? = some g
      · obtain rfl : f = g := Option.some.inj (hf.symm.trans hgf)
        have hnone : on f front = [] := List.filter_eq_nil_iff.2 hfront
        rw [on_append, hnone, List.nil_append]
        exact hback.symm
      · have hg := h g
        rwa [on_append, on_cons_of_ne hgf, on_cons_of_ne hgf, ← on_append] at hg

/-- **Steps on different parts of a query can be taken in any order.** If two lists of steps have
the same steps for each part, in the same order, they make the same query, with the same values for
each category, of any query they start from. So every dialect writes the same statement of both, and
leaves the same values behind. -/
theorem runAll_and_statement_eq (hsteps : ∀ step ∈ steps, step.facet?.isSome)
    (hmore : ∀ step ∈ more, step.facet?.isSome) (h : ∀ f, on f steps = on f more) (q : Query) :
    runAll q steps = runAll q more ∧
      ∀ d : Dialect, d.statement (runAll q steps) = d.statement (runAll q more) ∧
        d.selectInPlace (runAll q steps) = d.selectInPlace (runAll q more) := by
  have hsame : runAll q steps = runAll q more := runAll_congr hsteps hmore h q
  exact ⟨hsame, fun d => ⟨by rw [hsame], by rw [hsame]⟩⟩

/-- The steps of a query in the order of its clauses. -/
def orderlySteps : List Step :=
  [.selectRaw "coalesce(total, ?) as total" [.int 0], .source "orders",
    .compare .and (.named "state") "=" (.literal (.text "open")),
    .hasRows [.source "bans", .conditionRaw "kind = ?" [.int 1]] true,
    .having "total" ">" (.literal (.int 2)), .orderByRaw "abs(total - ?)" [.int 9],
    .orderBy "id" .descending, .limit 5]

/-- The same steps, taken as they come to mind. -/
def hastySteps : List Step :=
  [.orderByRaw "abs(total - ?)" [.int 9], .limit 5,
    .compare .and (.named "state") "=" (.literal (.text "open")),
    .having "total" ">" (.literal (.int 2)), .orderBy "id" .descending, .source "orders",
    .hasRows [.source "bans", .conditionRaw "kind = ?" [.int 1]] true,
    .selectRaw "coalesce(total, ?) as total" [.int 0]]

theorem runAll_and_statement_eq_hastySteps :
    (∀ step ∈ orderlySteps, step.facet?.isSome) ∧ (∀ step ∈ hastySteps, step.facet?.isSome) ∧
    (∀ f, on f orderlySteps = on f hastySteps) ∧
    Query.build orderlySteps = Query.build hastySteps ∧
    ((Dialect.generic "").statement (Query.build hastySteps)).values =
      [.int 0, .text "open", .int 1, .int 2, .int 9] := by
  have horderly : ∀ step ∈ orderlySteps, step.facet?.isSome := by
    simp [orderlySteps, facet?]
  have hhasty : ∀ step ∈ hastySteps, step.facet?.isSome := by
    simp [hastySteps, facet?]
  have hon : ∀ f, on f orderlySteps = on f hastySteps := by
    intro f
    cases f <;> rfl
  obtain ⟨hsame, hstatement⟩ := runAll_and_statement_eq horderly hhasty hon .empty
  refine ⟨horderly, hhasty, hon, hsame, ?_⟩
  rw [Query.build, ← (hstatement (Dialect.generic "")).1]
  rfl

end Step

end SqlDialect
