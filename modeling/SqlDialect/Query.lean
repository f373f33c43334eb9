import SqlDialect.Bindings

/-!
# Queries

What a `select` asks for, without deciding how it is spelled: a `Query` has a field for each clause
and the `Bindings` that belong to its text. Conditions nest: a `Predicate` may hold a group of
clauses, a sub-query, or one that is built when it is needed (`Source.deferred`).

The fields can be set freely. The methods of `SqlDialect.Query.Builder` set them together with the
bindings.
-/

namespace SqlDialect

/-! ## The parts of clauses -/

/-- What is selected, compared, grouped or ordered by. -/
inductive Column
  /-- A name, which is quoted; it may be dotted and have an alias. -/
  | named (name : String)
  /-- Text that stands in the statement as it is. -/
  | raw (sql : String)
  deriving DecidableEq, Repr

/-- How a condition is joined to the one before it. -/
inductive Connective
  | and
  | or
  deriving DecidableEq, Repr

/-- The word of a connective. -/
def Connective.text : Connective → String
  | .and => "and"
  | .or => "or"

/-- The kind of a join. -/
inductive JoinKind
  | inner
  | left
  | right
  | cross
  deriving DecidableEq, Repr

/-- The word of a join. -/
def JoinKind.text : JoinKind → String
  | .inner => "inner"
  | .left => "left"
  | .right => "right"
  | .cross => "cross"

/-- Two columns compared by an operator. -/
structure ColumnTest where
  first : Column
  operator : String
  second : Column
  deriving DecidableEq, Repr

/-- A joined table with the conditions it is joined on. -/
structure Join where
  kind : JoinKind
  table : String
  on : List ColumnTest
  deriving DecidableEq, Repr

/-- The direction of an order. -/
inductive Direction
  | ascending
  | descending
  deriving DecidableEq, Repr

/-- The word of a direction. -/
def Direction.text : Direction → String
  | .ascending => "asc"
  | .descending => "desc"

/-- What rows are ordered by. -/
inductive SortKey
  | column (column : Column) (direction : Direction)
  | raw (sql : String)
  deriving DecidableEq, Repr

/-- A condition on groups. -/
inductive HavingTest
  | compare (column : Column) (operator : String) (operand : Operand)
  | raw (sql : String)

/-- A condition on groups with its connective to the one before it. -/
structure Having where
  connective : Connective
  test : HavingTest

/-! ## Queries and predicates -/

mutual

/-- What a `select` asks for. -/
structure Query where
  distinct : Bool := false
  /-- The selected columns; all columns if there are none. -/
  columns : Option (List Column) := none
  /-- The table that is selected from, perhaps with an alias. -/
  source : Option String := none
  joins : List Join := []
  conditions : List Clause := []
  groups : List Column := []
  havings : List Having := []
  orders : List SortKey := []
  limit : Option UInt64 := none
  offset : Option UInt64 := none
  bindings : Bindings := {}

/-- A condition with its connective to the one before it, which the first one does not use. -/
structure Clause where
  connective : Connective
  predicate : Predicate

/-- A condition on rows. -/
inductive Predicate where
  | compare (column : Column) (operator : String) (operand : Operand)
  | member (column : Column) (source : Source) (negated : Bool)
  | null (column : Column) (negated : Bool)
  | between (column : Column) (low high : Operand) (negated : Bool)
  | compareColumns (test : ColumnTest)
  | raw (sql : String)
  | group (clauses : List Clause)
  | hasRows (query : Query) (negated : Bool)

/-- Where the values of a membership test come from. -/
inductive Source where
  | list (operands : List Operand)
  | query (query : Query)
  /-- A query that is built anew whenever it is needed. -/
  | deferred (build : Unit → Query)

end

namespace Query

/-- The query that asks for nothing in particular. -/
def empty : Query := {}

/-- A query against a table. -/
def ofTable (table : String) : Query := { source := some table }

end Query

end SqlDialect
