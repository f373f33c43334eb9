import SqlDialect.Dialect.Select
import SqlDialect.Proofs.Tied.Clauses

/-!
# Fragments with their values

The fragments of a query that is built by steps, with the values of their placeholders. What the
conditions read has to be known beforehand, since they hold sub-queries; the other clauses are put
together from what the steps add.

Each category of values belongs to one part (`Part.values`), and the parts stand in the order of
the categories (`TiedFragments.Aligned.concatenate`).
-/

namespace SqlDialect

/-! ## Fragments in general -/

/-- All categories in the order in which their values are put together. -/
def Category.all : List Category := [.select, .condition, .having, .order]

theorem Bindings.flatten_eq (b : Bindings) : b.flatten = Category.all.flatMap b.get := by
  simp [flatten, Category.all]

/-- The values that belong to a part, given the values of each category. -/
def Part.values (values : Category → List Value) : Part → List Value
  | .columns => values .select
  | .conditions => values .condition
  | .havings => values .having
  | .orders => values .order
  | _ => []

/-- The tied texts of the clauses of a `select`. -/
abbrev TiedFragments := Part → Option Tied

namespace Tied

/-- Two fragments are missing and there are no values, or one is aligned with the other. -/
def AlignedFragment : Option Tied → Option String → List Value → Prop
  | some t, some s, values => t.Aligned s values
  | none, none, values => values = []
  | _, _, _ => False

/-- A clause that is there unless its list is empty. -/
theorem AlignedFragment.unlessEmpty {α : Type} {l : List α} {t : Tied} {sql : String}
    {values : List Value} (hempty : l = [] → values = []) (h : t.Aligned sql values) :
    AlignedFragment (if l.isEmpty then none else some t) (if l.isEmpty then none else some sql)
      values := by
  by_cases hl : l = []
  · rw [if_pos (List.isEmpty_iff.2 hl), if_pos (List.isEmpty_iff.2 hl)]
    exact hempty hl
  · rw [if_neg (mt List.isEmpty_iff.1 hl), if_neg (mt List.isEmpty_iff.1 hl)]
    exact h

/-- A clause, or a text without placeholders in its place. -/
theorem AlignedFragment.getD {t : Option Tied} {sql : Option String} {values : List Value}
    (h : AlignedFragment t sql values) {default : String} (hdefault : Unmarked default) :
    (t.getD (plain default)).Aligned (sql.getD default) values := by
  cases t <;> cases sql
  case none.none =>
    have hvalues : values = [] := h
    exact hvalues ▸ aligned_plain hdefault
  case none.some => exact h.elim
  case some.none => exact h.elim
  case some.some => exact h

/-- A clause without placeholders that is there if its entry is. -/
theorem AlignedFragment.ofOption {α : Type} {entry : Option α} {written : α → String}
    (h : ∀ a, entry = some a → Unmarked (written a)) :
    AlignedFragment (entry.map fun a => plain (written a)) (entry.map written) [] := by
  cases entry with
  | none => rfl
  | some a => exact aligned_plain (h a rfl)

end Tied

namespace TiedFragments

/-- The fragments that are not empty, joined by single blanks. -/
def concatenate (ts : TiedFragments) : Tied :=
  Tied.join " " ((Part.all.filterMap ts).filter fun t => !t.isEmpty)

/-- Each tied fragment reads the one of its part, with the values that belong to the part. -/
def Aligned (ts : TiedFragments) (f : Fragments) (values : Category → List Value) : Prop :=
  ∀ p, Tied.AlignedFragment (ts p) (f.get? p) (p.values values)

variable {ts : TiedFragments} {f : Fragments} {values : Category → List Value}

/-- The fragments of some parts, without those that are empty. -/
theorem Aligned.nonempty (h : ts.Aligned f values) (parts : List Part) :
    Tied.AlignedList ((parts.filterMap ts).filter fun t => !t.isEmpty)
      ((parts.filterMap f.get?).filter fun text => text != "")
      (parts.flatMap (Part.values values)) := by
  induction parts with
  | nil => exact .nil
  | cons p parts ih =>
    have hp := h p
    rw [List.flatMap_cons, List.filterMap_cons, List.filterMap_cons]
    cases ht : ts p <;> cases hf : f.get? p <;> rw [ht, hf] at hp
    case none.none =>
      have hnone : p.values values = [] := hp
      rw [hnone]
      exact ih
    case none.some => exact hp.elim
    case some.none => exact hp.elim
    case some.some t s =>
      have haligned : t.Aligned s (p.values values) := hp
      by_cases hempty : t = []
      · have hs : s = "" := haligned.nil_iff.1 hempty
        have hvalues : p.values values = [] := by
          rw [← haligned.values_eq, hempty]
          rfl
        simpa [hempty, hs, hvalues] using ih
      · have hs : s ≠ "" := fun hs => hempty (haligned.nil_iff.2 hs)
        simpa [hempty, hs] using Tied.AlignedList.cons haligned ih

/-- **The joined fragments hold the values by category, in order.** -/
theorem Aligned.concatenate (h : ts.Aligned f values) :
    ts.concatenate.Aligned f.concatenate (Category.all.flatMap values) := by
  have hvalues : Part.all.flatMap (Part.values values) = Category.all.flatMap values := by
    simp [Part.all, Part.values, Category.all]
  rw [TiedFragments.concatenate, Fragments.concatenate, f.map_snd_toList, ← hvalues]
  exact (h.nonempty Part.all).join (by decide)

end TiedFragments

/-! ## The fragments of a query -/

open Tied (plain)

/-- The where clause of tied conditions; there is none if nothing is written. -/
def Tied.whereClause (conditions : List (Connective × Tied)) : Tied :=
  if (Tied.chain conditions).isEmpty then [] else plain "where " ++ Tied.chain conditions

theorem Tied.AlignedChain.whereClause {conditions : List (Connective × Tied)}
    {texts : List (Connective × String)} {values : List Value}
    (h : AlignedChain conditions texts values) :
    (Tied.whereClause conditions).Aligned (SqlDialect.whereClause texts) values := by
  have hchain := h.chain
  unfold Tied.whereClause SqlDialect.whereClause
  by_cases hempty : Tied.chain conditions = []
  · simpa [hempty, hchain.nil_iff.1 hempty] using hchain
  · have htext : SqlDialect.chain texts ≠ "" := fun htext => hempty (hchain.nil_iff.2 htext)
    simpa [hempty, htext] using Aligned.plain_append (by decide) hchain

namespace Spelling

variable (s : Spelling)

/-- The select clause of the query that the steps build. -/
def tiedSelectClause (steps : List Step) : Tied :=
  plain ((if (Query.build steps).distinct then "select distinct" else "select") ++ " ") ++
    if (steps.flatMap s.tiedColumns).isEmpty then plain "*"
    else Tied.join ", " (steps.flatMap s.tiedColumns)

end Spelling

namespace Dialect

/-- The dialect writes a question mark for each value, and no other. -/
structure MarksValues (d : Dialect) : Prop extends d.toSpelling.MarksValues where
  limit : ∀ rows, Unmarked (d.limit rows)
  offset : ∀ rows, Unmarked (d.offset rows)

/-- The fragments of the query that the steps build, with conditions that are tied already. -/
def tiedFragments (d : Dialect) (steps : List Step) (conditions : List (Connective × Tied)) :
    TiedFragments
  | .columns => some (d.tiedSelectClause steps)
  | .source => (Query.build steps).source.map fun table => plain ("from " ++ d.table table)
  | .joins =>
    if (Query.build steps).joins.isEmpty then none
    else some (plain (d.joinClause (Query.build steps).joins))
  | .conditions =>
    if (Query.build steps).conditions.isEmpty then none else some (Tied.whereClause conditions)
  | .groups =>
    if (Query.build steps).groups.isEmpty then none
    else some (plain ("group by " ++ d.columns (Query.build steps).groups))
  | .havings =>
    if (Query.build steps).havings.isEmpty then none
    else some (plain "having " ++ Tied.chain (steps.flatMap d.tiedHavings))
  | .orders =>
    if (Query.build steps).orders.isEmpty then none
    else some (plain "order by " ++ Tied.join ", " (steps.flatMap d.tiedOrders))
  | .limit => (Query.build steps).limit.map fun rows => plain (d.limit rows)
  | .offset => (Query.build steps).offset.map fun rows => plain (d.offset rows)

end Dialect

/-! ## Their alignment -/

/-- The values of a query by category, with others for its conditions. -/
def Query.valuesWith (q : Query) (conditions : List Value) (c : Category) : List Value :=
  if c = .condition then conditions else q.bindings.get c

theorem Query.valuesWith_get (q : Query) :
    q.valuesWith (q.bindings.get .condition) = q.bindings.get := by
  funext c
  unfold valuesWith
  split
  · next h => rw [h]
  · rfl

namespace Spelling.MarksValues

variable {s : Spelling} (h : s.MarksValues)

include h

theorem unmarked_columnTest {first operator second : String} (hfirst : Unmarked first)
    (hoperator : Unmarked operator) (hsecond : Unmarked second) :
    Unmarked (s.columnTest ⟨.named first, operator, .named second⟩) :=
  unmarked_spaced (unmarked_spaced (unmarked_columnName h.toKeepsUnmarked hfirst) hoperator)
    (unmarked_columnName h.toKeepsUnmarked hsecond)

theorem unmarked_join {step : Step} (ht : step.Tidy) {j : Join} (hj : j ∈ step.joins) :
    Unmarked (s.join j) := by
  cases step <;> simp only [Step.joins, List.mem_singleton, List.not_mem_nil] at hj <;> subst hj
  case join kind table first operator second =>
    obtain ⟨htable, hfirst, hoperator, hsecond⟩ := ht
    have hkind : Unmarked kind.text := by cases kind <;> decide
    have htest : Unmarked (s.columnTest ⟨.named first, operator, .named second⟩) :=
      h.unmarked_columnTest hfirst hoperator hsecond
    simp only [Spelling.join, List.isEmpty_cons, Bool.false_eq_true, if_false, List.map_singleton,
      String.intercalate_singleton, unmarked_append]
    exact ⟨⟨⟨hkind, by decide⟩, unmarked_table h.toKeepsUnmarked htable⟩, by decide, htest⟩
  case crossJoin table =>
    simp only [Spelling.join, List.isEmpty_nil, if_true, unmarked_append]
    exact ⟨⟨by decide, unmarked_table h.toKeepsUnmarked ht⟩, by decide⟩

end Spelling.MarksValues

theorem Step.Tidy.unmarked_groups {step : Step} (ht : step.Tidy) {c : Column}
    (hc : c ∈ step.groups) : c.Unmarked := by
  cases step <;> simp only [groups, List.mem_map, List.not_mem_nil] at hc
  case groupBy names =>
    obtain ⟨name, hname, rfl⟩ := hc
    exact ht name hname

section Build

variable {steps : List Step} (hbuild : Step.allBuild steps = true) (htidy : Step.AllTidy steps)

include hbuild htidy

namespace Spelling.MarksValues

variable {s : Spelling} (h : s.MarksValues)

include h

theorem unmarked_joinClause : Unmarked (s.joinClause (Query.build steps).joins) := by
  refine unmarked_intercalate (by decide) fun t hmem => ?_
  obtain ⟨j, hj, rfl⟩ := List.mem_map.1 hmem
  rw [Query.joins_build hbuild] at hj
  obtain ⟨step, hstep, hj⟩ := List.mem_flatMap.1 hj
  exact h.unmarked_join (Step.allTidy_iff.1 htidy step hstep) hj

theorem unmarked_groupColumns : Unmarked (s.columns (Query.build steps).groups) := by
  refine unmarked_columns h.toKeepsUnmarked fun c hc => ?_
  rw [Query.groups_build hbuild] at hc
  obtain ⟨step, hstep, hc⟩ := List.mem_flatMap.1 hc
  exact (Step.allTidy_iff.1 htidy step hstep).unmarked_groups hc

theorem unmarked_source {table : String} (hs : (Query.build steps).source = some table) :
    Unmarked (s.table table) := by
  have hstep : Step.Tidy (.source table) :=
    Step.allTidy_iff.1 htidy _ (Query.mem_of_source_build hbuild hs)
  exact unmarked_table h.toKeepsUnmarked hstep

theorem aligned_selectClause :
    (s.tiedSelectClause steps).Aligned (s.selectClause (Query.build steps))
      ((Query.build steps).bindings.get .select) := by
  have hcolumns : Tied.AlignedList (steps.flatMap s.tiedColumns)
      (((Query.build steps).columns.getD []).map s.column)
      ((Query.build steps).bindings.get .select) := by
    rw [Query.columns_build hbuild, Query.get_bindings_build hbuild, List.map_flatMap]
    exact .flatMap fun step hstep => h.aligned_columns (Step.allTidy_iff.1 htidy step hstep)
  have hword : Unmarked
      ((if (Query.build steps).distinct then "select distinct" else "select") ++ " ") := by
    cases (Query.build steps).distinct <;> decide
  have htext : s.selectClause (Query.build steps) =
      (if (Query.build steps).distinct then "select distinct" else "select") ++ " " ++
        if ((Query.build steps).columns.getD []).isEmpty then "*"
        else s.columns ((Query.build steps).columns.getD []) := by
    unfold selectClause
    congr 1
    cases (Query.build steps).columns with
    | none => rfl
    | some cs => cases cs <;> rfl
  rw [htext, tiedSelectClause]
  refine Tied.Aligned.plain_append hword ?_
  rw [hcolumns.isEmpty_eq, List.isEmpty_map]
  split
  · next hempty =>
    rw [List.isEmpty_iff.1 hempty] at hcolumns
    rw [hcolumns.values_eq_nil]
    exact Tied.aligned_plain (by decide)
  · exact hcolumns.join (by decide)

theorem aligned_havingClause :
    Tied.AlignedChain (steps.flatMap s.tiedHavings)
      ((Query.build steps).havings.map fun having => (having.connective, s.havingTest having.test))
      ((Query.build steps).bindings.get .having) := by
  rw [Query.havings_build hbuild, Query.get_bindings_build hbuild, List.map_flatMap]
  exact .flatMap fun step hstep => h.aligned_havings (Step.allTidy_iff.1 htidy step hstep)

theorem aligned_orderClause :
    Tied.AlignedList (steps.flatMap s.tiedOrders) ((Query.build steps).orders.map s.sortKey)
      ((Query.build steps).bindings.get .order) := by
  rw [Query.orders_build hbuild, Query.get_bindings_build hbuild, List.map_flatMap]
  exact .flatMap fun step hstep => h.aligned_orders (Step.allTidy_iff.1 htidy step hstep)

end Spelling.MarksValues

/-- **The fragments of a query are aligned** if its conditions are: those of the other clauses hold
the values that are bound for them. -/
theorem Dialect.MarksValues.aligned_fragments {d : Dialect} (h : d.MarksValues)
    {conditions : List (Connective × Tied)} {values : List Value}
    (hc : Tied.AlignedChain conditions (d.conditionTexts (Query.build steps).conditions) values) :
    (d.tiedFragments steps conditions).Aligned (d.fragments (Query.build steps))
      ((Query.build steps).valuesWith values) := by
  have hmarks : d.toSpelling.MarksValues := h.toMarksValues
  have hgroups := hmarks.unmarked_groupColumns hbuild htidy
  have hhavings := hmarks.aligned_havingClause hbuild htidy
  have horders := hmarks.aligned_orderClause hbuild htidy
  intro p
  cases p with
  | columns => exact hmarks.aligned_selectClause hbuild htidy
  | source =>
    refine .ofOption fun table htable => unmarked_append.2 ⟨by decide, ?_⟩
    exact hmarks.unmarked_source hbuild htidy htable
  | joins =>
    refine .unlessEmpty (fun _ => rfl) (Tied.aligned_plain ?_)
    exact hmarks.unmarked_joinClause hbuild htidy
  | conditions =>
    refine .unlessEmpty (fun hnone => ?_) hc.whereClause
    rw [hnone, d.conditionTexts_eq_map] at hc
    exact hc.values_eq_nil
  | groups =>
    refine .unlessEmpty (fun _ => rfl) (Tied.aligned_plain ?_)
    exact unmarked_append.2 ⟨by decide, hgroups⟩
  | havings =>
    refine .unlessEmpty (fun hnone => ?_) (Tied.Aligned.plain_append (by decide) hhavings.chain)
    rw [hnone] at hhavings
    exact hhavings.values_eq_nil
  | orders =>
    refine .unlessEmpty (fun hnone => ?_)
      (Tied.Aligned.plain_append (by decide) (horders.join (by decide)))
    rw [hnone] at horders
    exact horders.values_eq_nil
  | limit => exact .ofOption fun rows _ => h.limit rows
  | offset => exact .ofOption fun rows _ => h.offset rows

end Build

end SqlDialect
