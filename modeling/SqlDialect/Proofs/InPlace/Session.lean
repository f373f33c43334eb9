import SqlDialect.Proofs.Commuting
import SqlDialect.Proofs.InPlace.Compiled
import SqlDialect.Proofs.Tied.Order

/-!
# Sessions

A session works on one query over one connection: it takes building steps, compiles the query in
place, and turns the numbering of rows on and off, in any order (`Db2.Session.Action`). What the
query binds stays the same collection of values throughout: those that its steps were given
(`Step.given`), each as often as it was given. Compiling only moves values from one category to
another, so whatever the order of values has become, the text asks for as many as there are.
-/

namespace SqlDialect

namespace Step

/-! ## The values that steps are given -/

mutual

/-- The values that a step is given. A sub-query takes those of all of its steps, a group only those
of its conditions. -/
def given : Step → List Value
  | .selectRaw _ values => values
  | .compare _ _ _ operand => operand.values
  | .like _ pattern _ => pattern.values
  | .inList _ operands _ => operands.flatMap Operand.values
  | .inQuery _ steps _ => allGiven steps
  | .inDeferred _ steps => allGiven steps
  | .between _ low high _ => low.values ++ high.values
  | .conditionRaw _ values => values
  | .group steps => conditionsGiven steps
  | .hasRows steps _ => allGiven steps
  | .having _ _ operand => operand.values
  | .havingRaw _ values => values
  | .orderByRaw _ values => values
  | _ => []

/-- The values that steps are given. -/
def allGiven : List Step → List Value
  | [] => []
  | step :: steps => step.given ++ allGiven steps

/-- The values that those of the steps are given that add conditions. -/
def conditionsGiven : List Step → List Value
  | [] => []
  | step :: steps =>
    if step.facet? = some .conditions then step.given ++ conditionsGiven steps
    else conditionsGiven steps

end

theorem allGiven_eq (steps : List Step) : allGiven steps = steps.flatMap given := by
  induction steps with
  | nil => rfl
  | cons step steps ih => rw [allGiven, ih, List.flatMap_cons]

theorem conditionsGiven_eq (steps : List Step) :
    conditionsGiven steps = (on .conditions steps).flatMap given := by
  induction steps with
  | nil => rfl
  | cons step steps ih =>
    rw [conditionsGiven, ih]
    split
    · next h => rw [on_cons_of_facet? h, List.flatMap_cons]
    · next h => rw [on_cons_of_ne h]

end Step

/-! ## Values that are bound are values that are given -/

theorem perm_append_last {α : Type} (front middle back : List α) :
    (front ++ middle ++ back).Perm (front ++ back ++ middle) := by
  rw [List.append_assoc, List.append_assoc]
  exact List.perm_append_comm.append_left front

theorem Bindings.flatten_extend_perm (b : Bindings) (c : Category) (values : List Value) :
    (b.extend c values).flatten.Perm (b.flatten ++ values) := by
  cases c with
  | select =>
    simpa [flatten] using perm_append_last (b.get .select) values
      (b.get .condition ++ b.get .having ++ b.get .order)
  | condition =>
    simpa [flatten] using perm_append_last (b.get .select ++ b.get .condition) values
      (b.get .having ++ b.get .order)
  | having =>
    simpa [flatten] using perm_append_last (b.get .select ++ b.get .condition ++ b.get .having)
      values (b.get .order)
  | order => simp [flatten]

namespace Step

theorem values_eq_bound {step : Step} {c : Category} (h : step.facet? = some c.facet) :
    step.values c = step.bound := by
  unfold values
  split
  · rfl
  · next hne =>
    rcases step.bound_eq_nil_or_facet?_eq with hnone | hfacet
    · exact hnone.symm
    · rw [h] at hfacet
      exact absurd (Category.facet_injective (Option.some.inj hfacet)) hne

theorem values_eq_nil {step : Step} {c : Category} (h : step.facet? ≠ some c.facet) :
    step.values c = [] := by
  unfold values
  split
  · next heq =>
    rcases step.bound_eq_nil_or_facet?_eq with hnone | hfacet
    · exact hnone
    · exact absurd (heq ▸ hfacet) h
  · rfl

/-- A step adds the values that it binds to those that are there. -/
theorem flatten_run_perm {step : Step} (h : ∀ f, step ≠ .change f) (q : Query) :
    (step.run q).bindings.flatten.Perm (q.bindings.flatten ++ step.bound) := by
  rw [run_eq h]
  exact q.bindings.flatten_extend_perm step.category step.bound

theorem flatten_runAll_perm {steps : List Step} (h : allBuild steps = true) (q : Query) :
    (runAll q steps).bindings.flatten.Perm (q.bindings.flatten ++ steps.flatMap bound) := by
  induction steps generalizing q with
  | nil => simp [runAll]
  | cons step steps ih =>
    obtain ⟨hstep, hsteps⟩ := Bool.and_eq_true_iff.1 h
    have hfirst := flatten_run_perm (ne_change hstep) q
    rw [runAll, List.flatMap_cons, ← List.append_assoc]
    exact (ih hsteps (step.run q)).trans (hfirst.append_right _)

/-- The values for a category are bound by the steps that work on its part of the query. -/
theorem flatMap_values_eq (c : Category) (steps : List Step) :
    steps.flatMap (values c) = (on c.facet steps).flatMap bound := by
  induction steps with
  | nil => rfl
  | cons step steps ih =>
    rw [List.flatMap_cons, ih]
    by_cases hfacet : step.facet? = some c.facet
    · rw [on_cons_of_facet? hfacet, List.flatMap_cons, values_eq_bound hfacet]
    · rw [on_cons_of_ne hfacet, values_eq_nil hfacet, List.nil_append]

/-- The values of a query are those that its steps are given, if this is so of each step. -/
theorem flatten_build_perm_of {steps : List Step} (h : allBuild steps = true)
    (hbound : ∀ step ∈ steps, step.bound.Perm step.given) :
    (Query.build steps).bindings.flatten.Perm (allGiven steps) := by
  rw [allGiven_eq]
  exact (flatten_runAll_perm h .empty).trans (List.Perm.flatMap_left steps hbound)

/-- The values of its conditions are those that the steps with conditions are given, if this is so
of each step. -/
theorem get_condition_build_perm_of {steps : List Step} (h : allBuild steps = true)
    (hbound : ∀ step ∈ steps, step.bound.Perm step.given) :
    ((Query.build steps).bindings.get .condition).Perm (conditionsGiven steps) := by
  have hvalues :
      (Query.build steps).bindings.get .condition = (on .conditions steps).flatMap bound := by
    rw [Query.get_bindings_build h]
    exact flatMap_values_eq .condition steps
  rw [hvalues, conditionsGiven_eq]
  exact List.Perm.flatMap_left _ fun step hmem => hbound step (List.mem_of_mem_filter hmem)

theorem bound_perm_given (steps : List Step) (h : allBuild steps = true) :
    ∀ step ∈ steps, step.bound.Perm step.given := by
  induction steps using Step.induction with
  | h steps ih =>
    intro step hmem
    have hbuilds : step.builds = true := allBuild_iff.1 h step hmem
    have hnested : ∀ sub, step.nested? = some sub → ∀ inner ∈ sub, inner.bound.Perm inner.given :=
      fun sub hsub => ih step hmem sub hsub (allBuild_nested hbuilds hsub)
    cases step with
    | inQuery column sub negated => exact flatten_build_perm_of hbuilds (hnested sub rfl)
    | inDeferred column sub => exact flatten_build_perm_of hbuilds (hnested sub rfl)
    | hasRows sub negated => exact flatten_build_perm_of hbuilds (hnested sub rfl)
    | group sub =>
      have hgroup := get_condition_build_perm_of hbuilds (hnested sub rfl)
      simp only [bound, given]
      split
      · next hempty =>
        rwa [Query.get_condition_build_eq_nil hbuilds (List.isEmpty_iff.1 hempty)] at hgroup
      · exact hgroup
    | _ => exact .refl _

end Step

/-! ## Sessions -/

namespace Db2

/-- A query that is worked on, and the connection that it is for. -/
structure Session where
  connection : Connection
  query : Query

namespace Session

/-- What can be done next. -/
inductive Action
  | build (step : Step)
  /-- Compile the query in place. -/
  | compile
  /-- Turn the numbering of rows on or off. -/
  | numberRows (on : Bool)

/-- The building step of an action, if it is one. -/
def Action.steps : Action → List Step
  | .build step => [step]
  | .compile => []
  | .numberRows _ => []

/-- The session after an action. -/
def act (s : Session) : Action → Session
  | .build step => { s with query := step.run s.query }
  | .compile => { s with query := (s.connection.dialect.selectInPlace s.query).2 }
  | .numberRows on => { s with connection := s.connection.setOffsetCompatibility on }

/-- The session over a connection in which nothing has been done. -/
def start (c : Connection) : Session := ⟨c, .empty⟩

/-- The session after actions in order. -/
def run (s : Session) (actions : List Action) : Session := actions.foldl act s

/-- The building steps among actions. -/
def steps (actions : List Action) : List Step := actions.flatMap Action.steps

end Session

/-! ## What a session holds -/

theorem Connection.flatten_rebind_perm (c : Connection) (q : Query) :
    (c.dialect.rebind q).flatten.Perm q.bindings.flatten := by
  rw [flatten_rebind, Bindings.flatten_eq]
  exact (heldOrder_perm q).flatMap_right _

namespace Session

/-- The query is the one that the steps build, but for the order of its values, which are those that
the steps were given. -/
structure Holds (s : Session) (steps : List Step) : Prop where
  tablePrefix : Unmarked s.connection.settings.tablePrefix
  query_eq : ∃ b, s.query = { Query.build steps with bindings := b }
  values_perm : s.query.bindings.flatten.Perm (Step.allGiven steps)

theorem holds_start {c : Connection} (h : Unmarked c.settings.tablePrefix) : (start c).Holds [] :=
  ⟨h, ⟨{}, rfl⟩, .refl _⟩

namespace Holds

variable {s : Session} {done : List Step} (h : s.Holds done)

include h

theorem build {step : Step} (hstep : step.builds = true) :
    (s.act (.build step)).Holds (done ++ [step]) := by
  have hall : Step.allBuild [step] = true := Step.allBuild_iff.2 (by simpa using hstep)
  refine ⟨h.tablePrefix, ?_, ?_⟩
  · obtain ⟨b, hquery⟩ := h.query_eq
    obtain ⟨b', hrun⟩ := Step.runAll_rebound hall (Query.build done) b
    refine ⟨b', ?_⟩
    rw [Query.build, Step.runAll_append]
    exact (congrArg step.run hquery).trans hrun
  · have hgiven : step.bound.Perm step.given :=
      Step.bound_perm_given [step] hall step List.mem_cons_self
    have hrun := Step.flatten_run_perm (Step.ne_change hstep) s.query
    rw [Step.allGiven_eq, List.flatMap_append, List.flatMap_singleton, ← Step.allGiven_eq]
    exact hrun.trans (h.values_perm.append hgiven)

theorem compile : (s.act .compile).Holds done := by
  refine ⟨h.tablePrefix, ?_, (s.connection.flatten_rebind_perm s.query).trans h.values_perm⟩
  obtain ⟨b, hquery⟩ := h.query_eq
  refine ⟨s.connection.dialect.rebind s.query, ?_⟩
  simp only [act, Dialect.selectInPlace]
  rw [hquery]

theorem numberRows (on : Bool) : (s.act (.numberRows on)).Holds done :=
  ⟨h.tablePrefix, h.query_eq, h.values_perm⟩

/-- **An action keeps the values that were given**, and a building step adds its own. -/
theorem act {action : Action} (hbuild : Step.allBuild action.steps = true) :
    (s.act action).Holds (done ++ action.steps) := by
  cases action with
  | build step => exact h.build (Step.allBuild_iff.1 hbuild step List.mem_cons_self)
  | compile => exact (List.append_nil done).symm ▸ h.compile
  | numberRows on => exact (List.append_nil done).symm ▸ h.numberRows on

theorem run {actions : List Action} (hbuild : Step.allBuild (steps actions) = true) :
    (s.run actions).Holds (done ++ steps actions) := by
  induction actions generalizing s done with
  | nil => exact (List.append_nil done).symm ▸ h
  | cons action actions ih =>
    rw [steps, List.flatMap_cons, ← steps] at hbuild ⊢
    obtain ⟨hfirst, hrest⟩ := List.forall_mem_append.1 (Step.allBuild_iff.1 hbuild)
    rw [← List.append_assoc]
    exact ih (h.act (Step.allBuild_iff.2 hfirst)) (Step.allBuild_iff.2 hrest)

/-- The text asks for as many values as there are, over whatever connection. -/
theorem count_select (hbuild : Step.allBuild done = true) (htidy : Step.AllTidy done)
    {c : Connection} (hunmarked : Unmarked c.settings.tablePrefix) :
    (c.dialect.select s.query).toList.count '?' = s.query.bindings.flatten.length := by
  obtain ⟨b, hquery⟩ := h.query_eq
  have hbound : (Query.build done).bindings.flatten.Perm (Step.allGiven done) :=
    Step.flatten_build_perm_of hbuild (Step.bound_perm_given done hbuild)
  have htext : c.dialect.select s.query = c.dialect.select (Query.build done) := by
    rw [hquery, Connection.select_rebound]
  calc (c.dialect.select s.query).toList.count '?'
      = (c.dialect.rebind (Query.build done)).flatten.length := by
        rw [htext, (c.tying hunmarked).count_select hbuild htidy]
    _ = (Query.build done).bindings.flatten.length := (c.flatten_rebind_perm _).length_eq
    _ = s.query.bindings.flatten.length := (hbound.trans h.values_perm.symm).length_eq

end Holds

variable {c : Connection} {actions : List Action}

/-- **No value is lost or bound twice**, whatever is done in a session: after any actions the query
binds the values that the building steps among them were given, each as often as it was given, and
if it is compiled next, with rows numbered or not, its text has one question mark for each. -/
theorem run_conserves (hunmarked : Unmarked c.settings.tablePrefix)
    (hbuild : Step.allBuild (steps actions) = true) (htidy : Step.AllTidy (steps actions)) :
    ((start c).run actions).query.bindings.flatten.Perm (Step.allGiven (steps actions)) ∧
      ∀ on, ((((start c).run actions).connection.setOffsetCompatibility on).dialect.selectInPlace
          ((start c).run actions).query).1.toList.count '?' =
        ((start c).run actions).query.bindings.flatten.length := by
  have hholds : ((start c).run actions).Holds (steps actions) := (holds_start hunmarked).run hbuild
  exact ⟨hholds.values_perm, fun _ => hholds.count_select hbuild htidy hholds.tablePrefix⟩

/-- A session that compiles its query three times while it is built. -/
def restlessActions : List Action :=
  [.build (.source "orders as o"), .build (.orderByRaw "abs(total - ?)" [.int 7]),
    .build (.offset 20), .compile,
    .build (.inQuery (.named "customer_id")
      [.source "customers", .orderByRaw "score - ?" [.int 1],
        .compare .and (.named "state") "=" (.literal (.text "open")), .offset 10]
      false),
    .numberRows false, .compile,
    .build (.group
      [.selectRaw "?" [.int 3], .inList (.named "kind") [.literal (.int 4)] true,
        .conditionRaw "placed > ?" [.text "2024"]]),
    .numberRows true, .build (.orderByRaw "?" [.int 5]), .compile,
    .build (.selectRaw "coalesce(total, ?)" [.int 0])]

theorem run_conserves_restlessActions :
    Unmarked ({} : Connection).settings.tablePrefix ∧
    Step.allBuild (steps restlessActions) = true ∧ Step.AllTidy (steps restlessActions) ∧
    ((start {}).run restlessActions).query.bindings.flatten.Perm
      [.int 7, .int 1, .text "open", .int 4, .text "2024", .int 5, .int 0] ∧
    ∀ on, ((((start {}).run restlessActions).connection.setOffsetCompatibility
        on).dialect.selectInPlace
          ((start {}).run restlessActions).query).1.toList.count '?' = 7 := by
  have hunmarked : Unmarked ({} : Connection).settings.tablePrefix := by decide
  have hbuild : Step.allBuild (steps restlessActions) = true := rfl
  have htidy : Step.AllTidy (steps restlessActions) := by
    simp only [restlessActions, steps, List.flatMap_cons, List.flatMap_nil, Action.steps,
      List.cons_append, List.nil_append, Step.AllTidy, Step.Tidy, Column.Unmarked,
      Operand.Unmarked, List.forall_mem_singleton]
    decide
  obtain ⟨hperm, hcount⟩ := run_conserves hunmarked hbuild htidy
  exact ⟨hunmarked, hbuild, htidy, hperm, fun on => (hcount on).trans hperm.length_eq⟩

end Session

end Db2

end SqlDialect
