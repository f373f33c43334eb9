import SqlDialect.Proofs.Tied.Db2
import SqlDialect.Proofs.ValueIndependence

/-!
# Queries that were compiled before

Compiling in place changes nothing of a query but its bindings, and these only if its rows are
numbered (`Db2.Connection.Numbers`): then the values of its order (`Db2.Connection.moved`) stand
behind those of its select clause. The text does not show where they stand
(`Db2.Connection.select_rebound`), and compiling again finds none to move
(`Db2.Connection.compiled_succ`). So compiling in place is the same the first time and each time
after (`Db2.Connection.selectInPlace_effect`).
-/

namespace SqlDialect

namespace Dialect

/-- The query after it has been compiled in place so many times. -/
def compiled (d : Dialect) : Nat → Query → Query
  | 0, q => q
  | n + 1, q => (d.selectInPlace (d.compiled n q)).2

end Dialect

namespace Bindings

/-- Whether nothing is stored for a category without values. -/
def Compact (b : Bindings) : Prop := ∀ category, b.stored? category ≠ some []

variable {b : Bindings} (h : b.Compact)

include h

theorem Compact.extend {c : Category} {values : List Value} : (b.extend c values).Compact := by
  intro category
  cases values with
  | nil => exact h category
  | cons value values =>
    simp only [Bindings.extend, List.isEmpty_cons, Bool.false_eq_true, if_false, stored?_store]
    split
    · simp
    · exact h category

theorem Compact.take {c : Category} : (b.take c).2.Compact := by
  intro category
  simp only [Bindings.take, stored?_store]
  split
  · simp
  · exact h category

end Bindings

namespace Db2

theorem relocate_of_order_eq_none {b : Bindings} (h : b.order = none) : relocate b = b := by
  cases b
  cases h
  rfl

theorem order_relocate (b : Bindings) : (relocate b).order = none := by
  unfold relocate Bindings.take Bindings.extend
  cases b.get .order <;> rfl

theorem compact_relocate {b : Bindings} (h : b.Compact) : (relocate b).Compact := by
  have hrelocate : relocate b = (b.take .order).2.extend .select (b.get .order) := rfl
  rw [hrelocate]
  exact h.take.extend

/-- After the values of the order have moved, none are left to move. -/
theorem relocate_relocate (b : Bindings) : relocate (relocate b) = relocate b :=
  relocate_of_order_eq_none (order_relocate b)

namespace Connection

variable (c : Connection) (q : Query)

/-- The values that compiling in place moves: those of the order, if rows are numbered. -/
def moved : List Value := if (c.numberedOffset? q).isSome then q.bindings.get .order else []

/-! ## Text -/

/-- The text does not show the bindings. -/
theorem select_rebound (b : Bindings) :
    c.dialect.select { q with bindings := b } = c.dialect.select q := by
  refine c.ignoresValues.select_eq_of_sameShape ?_
  cases q
  rfl

/-! ## Values -/

theorem get_rebind :
    (c.dialect.rebind q).get =
      if (c.numberedOffset? q).isSome then movedOrder q.bindings.get else q.bindings.get := by
  simp only [dialect]
  cases c.numberedOffset? q with
  | none => rfl
  | some offset => exact get_relocate q.bindings

theorem get_select_rebind :
    (c.dialect.rebind q).get .select = q.bindings.get .select ++ c.moved q := by
  rw [get_rebind, moved]
  split
  · rfl
  · exact (List.append_nil _).symm

theorem get_condition_rebind :
    (c.dialect.rebind q).get .condition = q.bindings.get .condition := by
  rw [get_rebind]
  split <;> rfl

theorem get_having_rebind : (c.dialect.rebind q).get .having = q.bindings.get .having := by
  rw [get_rebind]
  split <;> rfl

theorem moved_append_get_order_rebind :
    c.moved q ++ (c.dialect.rebind q).get .order = q.bindings.get .order := by
  rw [get_rebind, moved]
  split
  · exact List.append_nil _
  · rfl

theorem rebind_rebind :
    c.dialect.rebind { q with bindings := c.dialect.rebind q } = c.dialect.rebind q := by
  have hsame : c.numberedOffset? { q with bindings := c.dialect.rebind q } = c.numberedOffset? q :=
    rfl
  simp only [dialect] at hsame ⊢
  rw [hsame]
  cases c.numberedOffset? q with
  | none => rfl
  | some offset => exact relocate_relocate q.bindings

/-- Compiling again and again is compiling once. -/
theorem compiled_succ (n : Nat) :
    c.dialect.compiled (n + 1) q = { q with bindings := c.dialect.rebind q } := by
  induction n with
  | zero => rfl
  | succ n ih =>
    rw [Dialect.compiled, ih, Dialect.selectInPlace]
    simp only [rebind_rebind]

/-! ## The effect of compiling -/

/-- Whether compiling numbers the rows of a query: some are left out, and the connection leaves them
out by number. -/
def Numbers : Prop :=
  c.settings.offsetCompatibility = true ∧ ∃ offset : UInt64, q.offset = some offset ∧ 0 < offset

theorem isSome_numberedOffset?_iff : (c.numberedOffset? q).isSome = true ↔ c.Numbers q := by
  unfold numberedOffset? activeOffset? Numbers
  cases c.settings.offsetCompatibility with
  | false => simp
  | true =>
    cases q.offset with
    | none => simp
    | some offset => by_cases hactive : 0 < offset <;> simp [hactive]

instance : Decidable (c.Numbers q) := decidable_of_iff _ (isSome_numberedOffset?_iff c q)

variable {c q}

theorem rebind_of_not_numbers (h : ¬ c.Numbers q) : c.dialect.rebind q = q.bindings := by
  have hnone : c.numberedOffset? q = none := by
    simpa using mt (isSome_numberedOffset?_iff c q).1 h
  simp only [dialect, hnone]

theorem get_rebind_of_numbers (h : c.Numbers q) :
    (c.dialect.rebind q).get = movedOrder q.bindings.get := by
  rw [get_rebind, if_pos ((isSome_numberedOffset?_iff c q).2 h)]

theorem compact_rebind (h : q.bindings.Compact) : (c.dialect.rebind q).Compact := by
  simp only [dialect]
  split
  · exact compact_relocate h
  · exact h

variable (c q)

/-- Each time that a query is compiled in place, it gives the same text and is left the same. -/
theorem selectInPlace_compiled (n : Nat) :
    c.dialect.selectInPlace (c.dialect.compiled n q) = c.dialect.selectInPlace q := by
  cases n with
  | zero => rfl
  | succ n =>
    rw [compiled_succ, Dialect.selectInPlace, select_rebound]
    simp only [rebind_rebind, Dialect.selectInPlace]

/-- The statement of a query is made of what compiling it in place gives. -/
theorem statement_eq_selectInPlace :
    c.statement q = ⟨(c.dialect.selectInPlace q).1,
      c.dialect.prepare (c.dialect.selectInPlace q).2.bindings.flatten⟩ :=
  rfl

/-- **The effect of compiling in place.** Only the bindings of the query itself may change: its clauses
stay as they are, and so do their sub-queries with all that they hold. If its rows are numbered, the
values of its order move behind those of its select clause; otherwise nothing changes. Nothing is
stored for a category that has lost its values. Compiled any number of times before, the query gives
the same text, is left the same, and has the same statement. -/
theorem selectInPlace_effect (n : Nat) :
    (c.dialect.selectInPlace q).2 =
      { q with bindings := (c.dialect.selectInPlace q).2.bindings } ∧
    (c.Numbers q →
      (c.dialect.selectInPlace q).2.bindings.get .select =
        q.bindings.get .select ++ q.bindings.get .order ∧
      (c.dialect.selectInPlace q).2.bindings.get .condition = q.bindings.get .condition ∧
      (c.dialect.selectInPlace q).2.bindings.get .having = q.bindings.get .having ∧
      (c.dialect.selectInPlace q).2.bindings.get .order = []) ∧
    (¬ c.Numbers q → (c.dialect.selectInPlace q).2 = q) ∧
    (q.bindings.Compact → (c.dialect.selectInPlace q).2.bindings.Compact) ∧
    c.dialect.selectInPlace (c.dialect.compiled n q) = c.dialect.selectInPlace q ∧
    c.statement (c.dialect.compiled n q) = c.statement q := by
  refine ⟨rfl, fun hnumbers => ?_, fun hplain => ?_, fun hcompact => compact_rebind hcompact,
    selectInPlace_compiled c q n, ?_⟩
  · have hmoved : (c.dialect.selectInPlace q).2.bindings.get = movedOrder q.bindings.get :=
      get_rebind_of_numbers hnumbers
    rw [hmoved]
    exact ⟨rfl, rfl, rfl, rfl⟩
  · rw [Dialect.selectInPlace, rebind_of_not_numbers hplain]
    cases q
    rfl
  · rw [statement_eq_selectInPlace, selectInPlace_compiled, ← statement_eq_selectInPlace]

/-- A query for users with a label, by their distance from one of them. -/
def labelled (offset : UInt64) : Query :=
  Query.build
    [.source "users", .selectRaw "? as label" [.text "near"],
      .compare .and (.named "active") "=" (.literal (.bool true)),
      .groupBy ["id"], .havingRaw "count(*) > ?" [.int 1],
      .orderByRaw "abs(id - ?)" [.int 9], .offset offset]

theorem selectInPlace_effect_labelled :
    ({} : Connection).Numbers (labelled 3) ∧
    (({} : Connection).dialect.selectInPlace (labelled 3)).2.bindings.get .select =
      [.text "near", .int 9] ∧
    (({} : Connection).dialect.selectInPlace (labelled 3)).2.bindings.get .order = [] ∧
    ¬ ({} : Connection).Numbers (labelled 0) ∧
    (({} : Connection).dialect.selectInPlace (labelled 0)).2 = labelled 0 ∧
    (labelled 3).bindings.Compact ∧
    (({} : Connection).dialect.selectInPlace (labelled 3)).2.bindings.Compact := by
  have hnumbers : ({} : Connection).Numbers (labelled 3) := by decide
  have hplain : ¬ ({} : Connection).Numbers (labelled 0) := by decide
  have hcompact : (labelled 3).bindings.Compact := by
    intro category hnone
    cases category <;> cases hnone
  obtain ⟨-, hmoved, -, hstored, -⟩ := selectInPlace_effect {} (labelled 3) 0
  exact ⟨hnumbers, (hmoved hnumbers).1, (hmoved hnumbers).2.2.2, hplain,
    (selectInPlace_effect {} (labelled 0) 0).2.2.1 hplain, hcompact, hstored hcompact⟩

end Connection

end Db2

end SqlDialect
