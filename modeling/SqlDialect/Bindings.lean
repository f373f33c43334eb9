import SqlDialect.Value

/-!
# Bindings

The values of a query, kept apart by the clause that they belong to. The four lists stand in the
order in which the clauses of a statement hold their placeholders, and `flatten` puts them together
in that order. A list without values is not stored, so that two collections with the same values
are equal however they came about.

Each operation is pinned down by what it does to `get`: `get_add`, `get_extend`, `get_set` and
`get_take`.
-/

namespace SqlDialect

/-- The clause that a value belongs to, in the order of placeholders. -/
inductive Category
  | select
  | condition
  | having
  | order
  deriving DecidableEq, Repr

/-- The values of a query by category; a category without values is `none`. -/
structure Bindings where
  select : Option (List Value) := none
  condition : Option (List Value) := none
  having : Option (List Value) := none
  order : Option (List Value) := none
  deriving BEq

namespace Bindings

/-- No values. -/
def empty : Bindings := {}

/-- The list that is stored for a category. -/
def stored? (b : Bindings) : Category → Option (List Value)
  | .select => b.select
  | .condition => b.condition
  | .having => b.having
  | .order => b.order

/-- The bindings with another list stored for a category. -/
def store (b : Bindings) (c : Category) (values? : Option (List Value)) : Bindings :=
  match c with
  | .select => { b with select := values? }
  | .condition => { b with condition := values? }
  | .having => { b with having := values? }
  | .order => { b with order := values? }

/-- The values of a category. -/
def get (b : Bindings) (c : Category) : List Value := (b.stored? c).getD []

/-- A value after those of its category. -/
def add (b : Bindings) (c : Category) (value : Value) : Bindings :=
  b.store c (some (b.get c ++ [value]))

/-- Values after those of their category. -/
def extend (b : Bindings) (c : Category) (values : List Value) : Bindings :=
  if values.isEmpty then b else b.store c (some (b.get c ++ values))

/-- Values in place of those of their category. -/
def set (b : Bindings) (c : Category) (values : List Value) : Bindings :=
  b.store c (if values.isEmpty then none else some values)

/-- The values of a category, and the bindings without them. -/
def take (b : Bindings) (c : Category) : List Value × Bindings := (b.get c, b.store c none)

/-- All values in the order of placeholders. -/
def flatten (b : Bindings) : List Value :=
  b.get .select ++ b.get .condition ++ b.get .having ++ b.get .order

/-- The number of all values. -/
def length (b : Bindings) : Nat :=
  (b.get .select).length + (b.get .condition).length + (b.get .having).length +
    (b.get .order).length

/-- Whether nothing is stored. -/
def isEmpty (b : Bindings) : Bool :=
  b.select.isNone && b.condition.isNone && b.having.isNone && b.order.isNone

/-! ## What the operations do to a category -/

@[simp] theorem stored?_store (b : Bindings) (c d : Category) (values? : Option (List Value)) :
    (b.store c values?).stored? d = if d = c then values? else b.stored? d := by
  cases c <;> cases d <;> rfl

@[simp] theorem get_empty (c : Category) : empty.get c = [] := by
  cases c <;> rfl

@[simp] theorem get_add (b : Bindings) (c d : Category) (value : Value) :
    (b.add c value).get d = if d = c then b.get c ++ [value] else b.get d := by
  simp only [add, get, stored?_store]
  split <;> simp

@[simp] theorem get_extend (b : Bindings) (c d : Category) (values : List Value) :
    (b.extend c values).get d = if d = c then b.get c ++ values else b.get d := by
  cases values with
  | nil =>
    simp only [extend, List.isEmpty_nil, if_true, List.append_nil]
    split
    · next h => rw [h]
    · rfl
  | cons v vs =>
    simp only [extend, List.isEmpty_cons, Bool.false_eq_true, if_false, get, stored?_store]
    split <;> simp

@[simp] theorem get_set (b : Bindings) (c d : Category) (values : List Value) :
    (b.set c values).get d = if d = c then values else b.get d := by
  simp only [set, get, stored?_store]
  split
  · cases values <;> simp
  · rfl

@[simp] theorem get_take (b : Bindings) (c d : Category) :
    (b.take c).2.get d = if d = c then [] else b.get d := by
  simp only [take, get, stored?_store]
  split <;> simp

@[simp] theorem extend_nil (b : Bindings) (c : Category) : b.extend c [] = b := rfl

theorem extend_extend_of_ne {c d : Category} (h : c ≠ d) (b : Bindings)
    (values more : List Value) :
    (b.extend c values).extend d more = (b.extend d more).extend c values := by
  unfold extend
  split <;> split
  case isFalse.isFalse => cases c <;> cases d <;> first | exact absurd rfl h | rfl
  all_goals rfl

theorem set_extend_of_ne {c d : Category} (h : c ≠ d) (b : Bindings) (values more : List Value) :
    (b.extend c more).set d values = (b.set d values).extend c more := by
  unfold extend
  split
  · rfl
  · cases c <;> cases d <;> first | exact absurd rfl h | rfl

end Bindings

end SqlDialect
