import SqlDialect.Query

/-!
# Building queries

Each method adds to one clause of a query and records the values it brings under the category of
that clause. A group brings the values of its conditions only; a sub-query brings all of its
values, in the order of its own placeholders, as values of the outer condition.
-/

namespace SqlDialect.Query

/-! ## Source, columns and joins -/

/-- Select from a table. -/
def withSource (q : Query) (table : String) : Query := { q with source := some table }

/-- Select further columns by name. -/
def select (q : Query) (names : List String) : Query :=
  { q with columns := some (q.columns.getD [] ++ names.map Column.named) }

/-- Select a further column given as raw text with values. -/
def selectRaw (q : Query) (sql : String) (values : List Value) : Query :=
  { q with
    columns := some (q.columns.getD [] ++ [.raw sql])
    bindings := q.bindings.extend .select values }

/-- Select distinct rows. -/
def selectDistinct (q : Query) : Query := { q with distinct := true }

/-- Join a table on two columns. -/
def join (q : Query) (kind : JoinKind) (table first operator second : String) : Query :=
  { q with joins := q.joins ++ [⟨kind, table, [⟨.named first, operator, .named second⟩]⟩] }

/-- Join each row of a table. -/
def crossJoin (q : Query) (table : String) : Query :=
  { q with joins := q.joins ++ [⟨.cross, table, []⟩] }

/-! ## Conditions on rows -/

/-- A condition on rows with the values that its text binds. -/
def addCondition (q : Query) (connective : Connective) (predicate : Predicate)
    (values : List Value) : Query :=
  { q with
    conditions := q.conditions ++ [⟨connective, predicate⟩]
    bindings := q.bindings.extend .condition values }

/-- Compare a column with an operand. -/
def compare (q : Query) (connective : Connective) (column : Column) (operator : String)
    (operand : Operand) : Query :=
  q.addCondition connective (.compare column operator operand) operand.values

/-- Match a column against a pattern. -/
def like (q : Query) (column : Column) (pattern : Operand) (negated : Bool) : Query :=
  q.compare .and column (if negated then "not like" else "like") pattern

/-- Test whether a column is in a list. -/
def inList (q : Query) (column : Column) (operands : List Operand) (negated : Bool) : Query :=
  q.addCondition .and (.member column (.list operands) negated) (operands.flatMap Operand.values)

/-- Test whether a column is among the rows of a query. -/
def inQuery (q : Query) (column : Column) (sub : Query) (negated : Bool) : Query :=
  q.addCondition .and (.member column (.query sub) negated) sub.bindings.flatten

/-- Test whether a column is among the rows of a query that is built when needed. It is built here
once for its values. -/
def inDeferred (q : Query) (column : Column) (build : Unit → Query) : Query :=
  q.addCondition .and (.member column (.deferred build) false) (build ()).bindings.flatten

/-- Test whether a column is null. -/
def null (q : Query) (column : Column) (negated : Bool) : Query :=
  q.addCondition .and (.null column negated) []

/-- Test whether a column is in a range. -/
def between (q : Query) (column : Column) (low high : Operand) (negated : Bool) : Query :=
  q.addCondition .and (.between column low high negated) (low.values ++ high.values)

/-- Compare two columns. -/
def compareColumns (q : Query) (first operator second : String) : Query :=
  q.addCondition .and (.compareColumns ⟨.named first, operator, .named second⟩) []

/-- A condition given as raw text with values. -/
def conditionRaw (q : Query) (sql : String) (values : List Value) : Query :=
  q.addCondition .and (.raw sql) values

/-- The conditions of another query in parentheses; nothing if it has none. -/
def group (q : Query) (nested : Query) : Query :=
  if nested.conditions.isEmpty then q
  else q.addCondition .and (.group nested.conditions) (nested.bindings.get .condition)

/-- Test whether a query has rows. -/
def hasRows (q : Query) (sub : Query) (negated : Bool) : Query :=
  q.addCondition .and (.hasRows sub negated) sub.bindings.flatten

/-! ## Groups and order -/

/-- Group by further columns. -/
def groupBy (q : Query) (names : List String) : Query :=
  { q with groups := q.groups ++ names.map Column.named }

/-- Compare a column of each group with an operand. -/
def having (q : Query) (name operator : String) (operand : Operand) : Query :=
  { q with
    havings := q.havings ++ [⟨.and, .compare (.named name) operator operand⟩]
    bindings := q.bindings.extend .having operand.values }

/-- A condition on groups given as raw text with values. -/
def havingRaw (q : Query) (sql : String) (values : List Value) : Query :=
  { q with
    havings := q.havings ++ [⟨.and, .raw sql⟩]
    bindings := q.bindings.extend .having values }

/-- Order by a column. -/
def orderBy (q : Query) (name : String) (direction : Direction) : Query :=
  { q with orders := q.orders ++ [.column (.named name) direction] }

/-- Order by raw text with values. -/
def orderByRaw (q : Query) (sql : String) (values : List Value) : Query :=
  { q with
    orders := q.orders ++ [.raw sql]
    bindings := q.bindings.extend .order values }

/-- Select at most so many rows. -/
def take (q : Query) (rows : UInt64) : Query := { q with limit := some rows }

/-- Leave out so many rows. -/
def skip (q : Query) (rows : UInt64) : Query := { q with offset := some rows }

/-! ## Bindings by hand -/

/-- Add values to a category. -/
def addBindings (q : Query) (c : Category) (values : List Value) : Query :=
  { q with bindings := q.bindings.extend c values }

/-- Replace the values of a category. -/
def setBindings (q : Query) (c : Category) (values : List Value) : Query :=
  { q with bindings := q.bindings.set c values }

end SqlDialect.Query
