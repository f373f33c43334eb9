import SqlDialect.Proofs.Additions
import SqlDialect.Proofs.Tied.Text

/-!
# Clauses with their values

A query holds the text of a raw fragment and, apart from it, the values of all fragments; only the
step that adds a fragment knows which values are its own. So clauses are tied to their values along
the steps that add them: each part of a clause is written as it always is, with a placeholder tied
to its operand, and a raw fragment is filled with the values that its step brings.

A step is tidy (`Step.Tidy`) if its names, operators and raw texts bring no question mark and each
of its fragments has as many question marks as values.
-/

namespace SqlDialect

/-! ## Tidy steps -/

mutual

/-- The names, operators and raw operands of a step bring no question mark, and its raw fragments
have as many as values, in sub-queries and groups too. -/
def Step.Tidy : Step → Prop
  | .source table => Unmarked table
  | .select names => ∀ name ∈ names, Unmarked name
  | .selectRaw sql values => HasSlots sql values
  | .join _ table first operator second =>
    Unmarked table ∧ Unmarked first ∧ Unmarked operator ∧ Unmarked second
  | .crossJoin table => Unmarked table
  | .compare _ column operator operand =>
    column.Unmarked ∧ Unmarked operator ∧ operand.Unmarked
  | .like column pattern _ => column.Unmarked ∧ pattern.Unmarked
  | .inList column operands _ => column.Unmarked ∧ ∀ o ∈ operands, o.Unmarked
  | .inQuery column steps _ => column.Unmarked ∧ Step.AllTidy steps
  | .inDeferred column steps => column.Unmarked ∧ Step.AllTidy steps
  | .null column _ => column.Unmarked
  | .between column low high _ => column.Unmarked ∧ low.Unmarked ∧ high.Unmarked
  | .compareColumns first operator second =>
    Unmarked first ∧ Unmarked operator ∧ Unmarked second
  | .conditionRaw sql values => HasSlots sql values
  | .group steps => Step.AllTidy steps
  | .hasRows steps _ => Step.AllTidy steps
  | .groupBy names => ∀ name ∈ names, Unmarked name
  | .having name operator operand => Unmarked name ∧ Unmarked operator ∧ operand.Unmarked
  | .havingRaw sql values => HasSlots sql values
  | .orderBy name _ => Unmarked name
  | .orderByRaw sql values => HasSlots sql values
  | .distinct => True
  | .limit _ => True
  | .offset _ => True
  | .change _ => True

/-- All of the steps are tidy. -/
def Step.AllTidy : List Step → Prop
  | [] => True
  | step :: steps => step.Tidy ∧ Step.AllTidy steps

end

theorem Step.allTidy_iff {steps : List Step} : AllTidy steps ↔ ∀ step ∈ steps, step.Tidy := by
  induction steps with
  | nil => simp [AllTidy]
  | cons step steps ih => simp [AllTidy, ih]

theorem Step.Tidy.nested {step : Step} (h : step.Tidy) {steps : List Step}
    (hn : step.nested? = some steps) : AllTidy steps := by
  cases step <;> simp only [nested?, Option.some.injEq, reduceCtorEq] at hn <;> subst hn
  case inQuery => exact h.2
  case inDeferred => exact h.2
  case group => exact h
  case hasRows => exact h

/-! ## Operands and conditions -/

open Tied (plain fill)

/-- An operand, tied to its value if it has one. -/
def Operand.tied : Operand → Tied
  | .literal value => [.slot value]
  | .raw sql => plain sql

theorem Operand.aligned_tied {o : Operand} (h : o.Unmarked) :
    o.tied.Aligned (Spelling.questionMark o) o.values := by
  cases o with
  | literal value => exact Tied.aligned_slot value
  | raw sql => exact Tied.aligned_plain h

namespace Spelling

variable (s : Spelling)

/-- A column and an operand with the operator between them. -/
def tiedComparison (column : Column) (operator : String) (operand : Operand) : Tied :=
  plain (s.column column ++ " " ++ operator ++ " ") ++ operand.tied

/-- A column and a parenthesised text with the operator of a membership test between them. -/
def tiedMember (column : Column) (negated : Bool) (inside : Tied) : Tied :=
  plain (s.column column ++ " " ++ memberOperator negated ++ " (") ++ inside ++ plain ")"

/-- Membership in a list of operands. -/
def tiedList (column : Column) (os : List Operand) (negated : Bool) : Tied :=
  if os.isEmpty then plain (emptyMember negated)
  else s.tiedMember column negated (Tied.join ", " (os.map Operand.tied))

/-- A column between two operands. -/
def tiedBetween (column : Column) (low high : Operand) (negated : Bool) : Tied :=
  plain (s.column column ++ if negated then " not between " else " between ") ++ low.tied ++
    plain " and " ++ high.tied

variable {s} {column : Column} {negated : Bool}

/-- The spelling writes a question mark for each value, and no other. -/
structure MarksValues (s : Spelling) : Prop extends s.KeepsUnmarked where
  operand_eq : ∀ o, s.operand o = questionMark o

theorem marksValues_standard {tablePrefix : String} (h : Unmarked tablePrefix) :
    (Spelling.standard tablePrefix).MarksValues where
  tablePrefix := h
  quote := fun _ => Identifier.unmarked_quoted
  operand_eq := fun _ => rfl

namespace MarksValues

variable (h : s.MarksValues)

include h

theorem aligned_operand {o : Operand} (ho : o.Unmarked) :
    o.tied.Aligned (s.operand o) o.values :=
  h.operand_eq o ▸ Operand.aligned_tied ho

theorem aligned_comparison (hc : column.Unmarked) {operator : String} (hop : Unmarked operator)
    {operand : Operand} (ho : operand.Unmarked) :
    (s.tiedComparison column operator operand).Aligned (s.comparison column operator operand)
      operand.values := by
  have hcolumn : Unmarked (s.column column) := unmarked_column h.toKeepsUnmarked hc
  refine Tied.Aligned.plain_append ?_ (h.aligned_operand ho)
  exact unmarked_append.2 ⟨unmarked_spaced hcolumn hop, by decide⟩

theorem aligned_member (hc : column.Unmarked) {inside : Tied} {sql : String}
    {values : List Value} (hi : inside.Aligned sql values) :
    (s.tiedMember column negated inside).Aligned (s.member column negated sql) values := by
  have hcolumn : Unmarked (s.column column) := unmarked_column h.toKeepsUnmarked hc
  have hword : Unmarked (memberOperator negated) := by cases negated <;> decide
  refine Tied.Aligned.enclosed ?_ hi (by decide)
  exact unmarked_append.2 ⟨unmarked_spaced hcolumn hword, by decide⟩

theorem aligned_list (hc : column.Unmarked) {os : List Operand} (ho : ∀ o ∈ os, o.Unmarked) :
    (s.tiedList column os negated).Aligned (s.inList column os negated)
      (os.flatMap Operand.values) := by
  have hoperands : (Tied.join ", " (os.map Operand.tied)).Aligned (s.operands os)
      (os.flatMap Operand.values) :=
    (Tied.AlignedList.map fun o hmem => h.aligned_operand (ho o hmem)).join (by decide)
  unfold tiedList inList
  split
  · next hempty =>
    rw [List.isEmpty_iff.1 hempty]
    exact Tied.aligned_plain (by cases negated <;> decide)
  · exact h.aligned_member hc hoperands

theorem aligned_between (hc : column.Unmarked) {low high : Operand} (hl : low.Unmarked)
    (hh : high.Unmarked) :
    (s.tiedBetween column low high negated).Aligned
      (s.column column ++ (if negated then " not between " else " between ") ++ s.operand low ++
        " and " ++ s.operand high) (low.values ++ high.values) := by
  have hcolumn : Unmarked (s.column column) := unmarked_column h.toKeepsUnmarked hc
  have hword : Unmarked (if negated then " not between " else " between ") := by
    cases negated <;> decide
  have hlow := Tied.Aligned.plain_append (unmarked_append.2 ⟨hcolumn, hword⟩) (h.aligned_operand hl)
  exact (hlow.append_plain (by decide)).append (h.aligned_operand hh)

end MarksValues

/-! ## Columns, conditions on groups and sort keys -/

variable (s)

/-- The columns that a step selects. -/
def tiedColumns : Step → List Tied
  | .select names => names.map fun name => plain (s.column (.named name))
  | .selectRaw sql values => [fill sql values]
  | _ => []

/-- The conditions on groups that a step adds. -/
def tiedHavings : Step → List (Connective × Tied)
  | .having name operator operand => [(.and, s.tiedComparison (.named name) operator operand)]
  | .havingRaw sql values => [(.and, fill sql values)]
  | _ => []

/-- The sort keys that a step adds. -/
def tiedOrders : Step → List Tied
  | .orderBy name direction => [plain (s.sortKey (.column (.named name) direction))]
  | .orderByRaw sql values => [fill sql values]
  | _ => []

variable {s}

namespace MarksValues

variable (h : s.MarksValues) {step : Step} (ht : step.Tidy)

include h ht

theorem aligned_columns :
    Tied.AlignedList (s.tiedColumns step) ((step.columns?.getD []).map s.column)
      (step.values .select) := by
  cases step with
  | select names =>
    have hall : Tied.AlignedList (names.map fun name => plain (s.column (.named name)))
        (names.map fun name => s.column (.named name)) (names.flatMap fun _ => []) :=
      .map fun name hmem => Tied.aligned_plain (unmarked_column h.toKeepsUnmarked (ht name hmem))
    have hnone : (names.flatMap fun _ => []) = Step.values .select (.select names) := by
      simp [Step.values, Step.category]
    rw [hnone] at hall
    simpa [tiedColumns, Step.columns?, Function.comp_def] using hall
  | selectRaw sql values => exact .singleton (Tied.aligned_fill ht)
  | _ => exact .nil

theorem aligned_havings :
    Tied.AlignedChain (s.tiedHavings step)
      (step.havings.map fun having => (having.connective, s.havingTest having.test))
      (step.values .having) := by
  cases step with
  | having name operator operand =>
    have hcolumn : Column.Unmarked (.named name) := ht.1
    exact .singleton _ (h.aligned_comparison hcolumn ht.2.1 ht.2.2)
  | havingRaw sql values => exact .singleton _ (Tied.aligned_fill ht)
  | _ => exact .nil

theorem aligned_orders :
    Tied.AlignedList (s.tiedOrders step) (step.orders.map s.sortKey) (step.values .order) := by
  cases step with
  | orderBy name direction =>
    have hcolumn : Unmarked (s.column (.named name)) := unmarked_column h.toKeepsUnmarked ht
    have hword : Unmarked direction.text := by cases direction <;> decide
    exact .singleton (Tied.aligned_plain (unmarked_spaced hcolumn hword))
  | orderByRaw sql values => exact .singleton (Tied.aligned_fill ht)
  | _ => exact .nil

end MarksValues

end Spelling

end SqlDialect
