import Mathlib.Data.List.Nodup
import Mathlib.Data.List.Perm.Basic
import SqlDialect.Proofs.Tied.Statement

/-!
# The order of values

Two orders of the values of a query are compared: the one in which its statement holds them
(`Dialect.Tying.values`), and the one in which they are handed over with it. Both have the same
values (`Dialect.Tying.values_perm`). They are the same order if no sub-query, at any depth, changes
the order of its values when it is compiled (`Dialect.Tying.values_eq_of_keepsOrder`), and only then
if no two of the values are equal (`Dialect.Tying.keepsOrder_of_values_eq`).
-/

namespace SqlDialect

theorem sublist_flatMap_of_mem {α β : Type} {l : List α} {a : α} (h : a ∈ l) (f : α → List β) :
    (f a).Sublist (l.flatMap f) := by
  rw [List.flatMap_def]
  exact List.sublist_flatten_of_mem (List.mem_map_of_mem h)

/-- Two lists whose values are told apart can be put together in either order only if one of them is
empty: the first value would come from both. -/
theorem eq_nil_or_eq_nil_of_append_comm {α : Type} {l m : List α} (hnodup : (l ++ m).Nodup)
    (h : l ++ m = m ++ l) : l = [] ∨ m = [] := by
  rcases l with _ | ⟨a, l⟩
  · exact .inl rfl
  · rcases m with _ | ⟨b, m⟩
    · exact .inr rfl
    · have hsame : a = b := (List.cons.inj h).1
      have hdisjoint := (List.nodup_append.1 hnodup).2.2
      exact absurd hsame (hdisjoint a List.mem_cons_self b List.mem_cons_self)

namespace Dialect

/-- Compiling the query leaves its values in the order in which they were bound. -/
def KeepsOrder (d : Dialect) (q : Query) : Prop := (d.rebind q).flatten = q.bindings.flatten

namespace Tying

variable {d : Dialect} (T : d.Tying)

/-- **What a step brings to a condition**: a sub-query with all of its values, a group with those of
its conditions, or values that stand as they were bound. -/
theorem stepValues_cases {step : Step} (h : step.builds = true) :
    (∃ sub, step.nested? = some sub ∧ step.subqueries = sub :: Step.allSubqueries sub ∧
      T.stepValues step = T.values sub ∧
      step.values .condition = (Query.build sub).bindings.flatten) ∨
    (∃ sub, step.nested? = some sub ∧ step.subqueries = Step.allSubqueries sub ∧
      T.stepValues step = T.conditionValues sub ∧
      step.values .condition = (Query.build sub).bindings.get .condition) ∨
    (step.subqueries = [] ∧ T.stepValues step = step.values .condition) := by
  cases step with
  | inQuery column steps negated => exact .inl ⟨steps, rfl, rfl, rfl, rfl⟩
  | inDeferred column steps => exact .inl ⟨steps, rfl, rfl, rfl, rfl⟩
  | hasRows steps negated => exact .inl ⟨steps, rfl, rfl, rfl, rfl⟩
  | group steps =>
    refine .inr (.inl ⟨steps, rfl, rfl, rfl, ?_⟩)
    simp only [Step.values, Step.category, if_true, Step.bound]
    split
    · next hempty => exact (Query.get_condition_build_eq_nil h (List.isEmpty_iff.1 hempty)).symm
    · rfl
  | _ => exact .inr (.inr ⟨rfl, rfl⟩)

/-! ## The same values -/

variable {T} {steps : List Step}

theorem held_perm (h : (T.conditionValues steps).Perm ((Query.build steps).bindings.get .condition))
    (c : Category) : (T.held steps c).Perm ((Query.build steps).bindings.get c) := by
  unfold held Query.valuesWith
  split
  · next hc => exact hc ▸ h
  · exact .refl _

theorem values_perm_flatten
    (h : (T.conditionValues steps).Perm ((Query.build steps).bindings.get .condition)) :
    (T.values steps).Perm (Query.build steps).bindings.flatten := by
  rw [Bindings.flatten_eq]
  exact ((T.order_perm _).flatMap_right _).trans
    (List.Perm.flatMap_left _ fun c _ => held_perm h c)

theorem stepValues_perm_of {step : Step} (h : step.builds = true)
    (hn : ∀ sub, step.nested? = some sub →
      (T.conditionValues sub).Perm ((Query.build sub).bindings.get .condition)) :
    (T.stepValues step).Perm (step.values .condition) := by
  rcases T.stepValues_cases h with
    ⟨sub, hsub, -, htied, hbound⟩ | ⟨sub, hsub, -, htied, hbound⟩ | ⟨-, hsame⟩
  · rw [htied, hbound]
    exact values_perm_flatten (hn sub hsub)
  · rw [htied, hbound]
    exact hn sub hsub
  · rw [hsame]

theorem conditionValues_perm (steps : List Step) (hbuild : Step.allBuild steps = true)
    (htidy : Step.AllTidy steps) :
    (T.conditionValues steps).Perm ((Query.build steps).bindings.get .condition) := by
  induction steps using Step.induction with
  | h steps ih =>
    rw [conditionValues_eq hbuild htidy, Query.get_bindings_build hbuild]
    refine List.Perm.flatMap_left steps fun step hstep => ?_
    have hbuilds : step.builds = true := Step.allBuild_iff.1 hbuild step hstep
    have ht : step.Tidy := Step.allTidy_iff.1 htidy step hstep
    exact stepValues_perm_of hbuilds fun sub hsub =>
      ih step hstep sub hsub (Step.allBuild_nested hbuilds hsub) (ht.nested hsub)

theorem stepValues_perm {step : Step} (h : step.builds = true) (ht : step.Tidy) :
    (T.stepValues step).Perm (step.values .condition) :=
  stepValues_perm_of h fun sub hsub =>
    conditionValues_perm sub (Step.allBuild_nested h hsub) (ht.nested hsub)

/-- **A statement holds the values of its query**, each as often as it is bound. -/
theorem values_perm (hbuild : Step.allBuild steps = true) (htidy : Step.AllTidy steps) :
    (T.values steps).Perm (d.rebind (Query.build steps)).flatten := by
  rw [T.flatten_rebind]
  exact List.Perm.flatMap_left _ fun c _ => held_perm (conditionValues_perm steps hbuild htidy) c

/-- A statement has as many question marks as its query has values. -/
theorem count_select (T : d.Tying) (hbuild : Step.allBuild steps = true)
    (htidy : Step.AllTidy steps) :
    (d.select (Query.build steps)).toList.count '?' =
      (d.rebind (Query.build steps)).flatten.length :=
  (T.aligned_select hbuild htidy).count.trans (T.values_perm hbuild htidy).length_eq

/-! ## The same order -/

theorem values_eq_rebind
    (h : T.conditionValues steps = (Query.build steps).bindings.get .condition) :
    T.values steps = (d.rebind (Query.build steps)).flatten := by
  rw [T.flatten_rebind, values, held, h, Query.valuesWith_get]

/-- Conditions hold their values as they were bound if no sub-query changes the order of its own. -/
theorem conditionValues_eq_get (steps : List Step) (hbuild : Step.allBuild steps = true)
    (htidy : Step.AllTidy steps)
    (hkeeps : ∀ sub ∈ Step.allSubqueries steps, d.KeepsOrder (Query.build sub)) :
    T.conditionValues steps = (Query.build steps).bindings.get .condition := by
  induction steps using Step.induction with
  | h steps ih =>
    rw [conditionValues_eq hbuild htidy, Query.get_bindings_build hbuild]
    refine List.flatMap_congr fun step hstep => ?_
    have hbuilds : step.builds = true := Step.allBuild_iff.1 hbuild step hstep
    have ht : step.Tidy := Step.allTidy_iff.1 htidy step hstep
    have hkeepsStep : ∀ sub ∈ step.subqueries, d.KeepsOrder (Query.build sub) := by
      intro sub hsub
      rw [Step.allSubqueries_eq] at hkeeps
      exact hkeeps sub (List.mem_flatMap.2 ⟨step, hstep, hsub⟩)
    have hnested : ∀ sub, step.nested? = some sub →
        (∀ deep ∈ Step.allSubqueries sub, d.KeepsOrder (Query.build deep)) →
        T.conditionValues sub = (Query.build sub).bindings.get .condition := fun sub hsub =>
      ih step hstep sub hsub (Step.allBuild_nested hbuilds hsub) (ht.nested hsub)
    rcases T.stepValues_cases hbuilds with
      ⟨sub, hsub, hdeep, htied, hbound⟩ | ⟨sub, hsub, hdeep, htied, hbound⟩ | ⟨-, hsame⟩
    · rw [hdeep] at hkeepsStep
      obtain ⟨hhere, hbelow⟩ := List.forall_mem_cons.1 hkeepsStep
      rw [htied, hbound, values_eq_rebind (hnested sub hsub hbelow)]
      exact hhere
    · rw [hdeep] at hkeepsStep
      rw [htied, hbound]
      exact hnested sub hsub hkeepsStep
    · exact hsame

/-! ## Values that are told apart -/

/-- If the values are told apart, the statement holds those of the conditions as they were bound as
soon as it holds all values in some order of the categories. -/
theorem conditionValues_eq_get_of_values_eq (hbuild : Step.allBuild steps = true)
    (htidy : Step.AllTidy steps) {order : List Category} (horder : .condition ∈ order)
    (hnodup : (order.flatMap (Query.build steps).bindings.get).Nodup)
    (h : T.values steps = order.flatMap (Query.build steps).bindings.get) :
    T.conditionValues steps = (Query.build steps).bindings.get .condition := by
  have hmem : Category.condition ∈ T.order (Query.build steps) :=
    (T.order_perm _).mem_iff.2 (by decide)
  have hheld : (T.held steps .condition).Sublist
      (order.flatMap (Query.build steps).bindings.get) :=
    h ▸ sublist_flatMap_of_mem hmem (T.held steps)
  have hget : ((Query.build steps).bindings.get .condition).Sublist
      (order.flatMap (Query.build steps).bindings.get) :=
    sublist_flatMap_of_mem horder _
  exact (hnodup.perm_iff_eq_of_sublist hheld hget).1 (conditionValues_perm steps hbuild htidy)

/-- If the values are told apart, conditions hold them as they were bound only if no sub-query
changes the order of its own, which are told apart too. -/
theorem keepsOrder_of_conditionValues_eq (steps : List Step) (hbuild : Step.allBuild steps = true)
    (htidy : Step.AllTidy steps)
    (hnodup : ((Query.build steps).bindings.get .condition).Nodup)
    (h : T.conditionValues steps = (Query.build steps).bindings.get .condition) :
    ∀ sub ∈ Step.allSubqueries steps,
      (Query.build sub).bindings.flatten.Nodup ∧ d.KeepsOrder (Query.build sub) := by
  induction steps using Step.induction with
  | h steps ih =>
    rw [conditionValues_eq hbuild htidy, Query.get_bindings_build hbuild] at h
    rw [Query.get_bindings_build hbuild] at hnodup
    rw [Step.allSubqueries_eq]
    intro deep hdeep
    obtain ⟨step, hstep, hdeep⟩ := List.mem_flatMap.1 hdeep
    have hbuilds : step.builds = true := Step.allBuild_iff.1 hbuild step hstep
    have ht : step.Tidy := Step.allTidy_iff.1 htidy step hstep
    have hbound : (step.values .condition).Sublist (steps.flatMap (Step.values .condition)) :=
      sublist_flatMap_of_mem hstep _
    have hstepValues : T.stepValues step = step.values .condition :=
      (hnodup.perm_iff_eq_of_sublist (h ▸ sublist_flatMap_of_mem hstep T.stepValues) hbound).1
        (stepValues_perm hbuilds ht)
    have hstepNodup : (step.values .condition).Nodup := hnodup.sublist hbound
    rcases T.stepValues_cases hbuilds with
      ⟨sub, hsub, hbelow, htied, hflat⟩ | ⟨sub, hsub, hbelow, htied, hget⟩ | ⟨hnone, -⟩
    · have hb := Step.allBuild_nested hbuilds hsub
      have htsub := ht.nested hsub
      rw [hflat] at hstepNodup
      have hflatNodup := hstepNodup
      rw [Bindings.flatten_eq] at hstepNodup
      rw [htied, hflat, Bindings.flatten_eq] at hstepValues
      have hcondition : T.conditionValues sub = (Query.build sub).bindings.get .condition :=
        conditionValues_eq_get_of_values_eq hb htsub (by decide) hstepNodup hstepValues
      have hget : ((Query.build sub).bindings.get .condition).Nodup :=
        hstepNodup.sublist (sublist_flatMap_of_mem (by decide) _)
      rw [hbelow] at hdeep
      rcases List.mem_cons.1 hdeep with rfl | hdeep
      · refine ⟨hflatNodup, ?_⟩
        rw [KeepsOrder, ← values_eq_rebind hcondition, hstepValues, Bindings.flatten_eq]
      · exact ih step hstep sub hsub hb htsub hget hcondition deep hdeep
    · rw [hget] at hstepNodup
      rw [htied, hget] at hstepValues
      rw [hbelow] at hdeep
      exact ih step hstep sub hsub (Step.allBuild_nested hbuilds hsub) (ht.nested hsub) hstepNodup
        hstepValues deep hdeep
    · rw [hnone] at hdeep
      cases hdeep

/-- **A statement holds its values in the order in which they are handed over** if no sub-query
changes the order of its own. -/
theorem values_eq_of_keepsOrder (hbuild : Step.allBuild steps = true) (htidy : Step.AllTidy steps)
    (hkeeps : ∀ sub ∈ Step.allSubqueries steps, d.KeepsOrder (Query.build sub)) :
    T.values steps = (d.rebind (Query.build steps)).flatten :=
  values_eq_rebind (conditionValues_eq_get steps hbuild htidy hkeeps)

/-- **And only then**, if the values are told apart. -/
theorem keepsOrder_of_values_eq (hbuild : Step.allBuild steps = true) (htidy : Step.AllTidy steps)
    (hnodup : (d.rebind (Query.build steps)).flatten.Nodup)
    (h : T.values steps = (d.rebind (Query.build steps)).flatten) :
    ∀ sub ∈ Step.allSubqueries steps,
      (Query.build sub).bindings.flatten.Nodup ∧ d.KeepsOrder (Query.build sub) := by
  rw [T.flatten_rebind] at h hnodup
  have hmem : Category.condition ∈ T.order (Query.build steps) :=
    (T.order_perm _).mem_iff.2 (by decide)
  have hget : ((Query.build steps).bindings.get .condition).Nodup :=
    hnodup.sublist (sublist_flatMap_of_mem hmem _)
  exact keepsOrder_of_conditionValues_eq steps hbuild htidy hget
    (conditionValues_eq_get_of_values_eq hbuild htidy hmem hnodup h)

end Tying

end Dialect

end SqlDialect
