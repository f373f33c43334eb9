import SqlDialect.Query.Builder

/-!
# Building steps as data

A `Step` is one call of a building method, with the steps of its sub-queries in place of the
sub-queries. `Query.build` runs a list of steps on the empty query. What holds of every query that
can be built is stated over lists of steps.

`Step.change` stands for a change to a query that is no building method; `Step.builds` says that a
step is free of it at any depth.
-/

namespace SqlDialect

/-- One step of building a query. -/
inductive Step where
  | source (table : String)
  | select (names : List String)
  | selectRaw (sql : String) (values : List Value)
  | distinct
  | join (kind : JoinKind) (table first operator second : String)
  | crossJoin (table : String)
  | compare (connective : Connective) (column : Column) (operator : String) (operand : Operand)
  | like (column : Column) (pattern : Operand) (negated : Bool)
  | inList (column : Column) (operands : List Operand) (negated : Bool)
  | inQuery (column : Column) (steps : List Step) (negated : Bool)
  | inDeferred (column : Column) (steps : List Step)
  | null (column : Column) (negated : Bool)
  | between (column : Column) (low high : Operand) (negated : Bool)
  | compareColumns (first operator second : String)
  | conditionRaw (sql : String) (values : List Value)
  | group (steps : List Step)
  | hasRows (steps : List Step) (negated : Bool)
  | groupBy (names : List String)
  | having (name operator : String) (operand : Operand)
  | havingRaw (sql : String) (values : List Value)
  | orderBy (name : String) (direction : Direction)
  | orderByRaw (sql : String) (values : List Value)
  | limit (rows : UInt64)
  | offset (rows : UInt64)
  /-- Any change to the query itself. -/
  | change (f : Query → Query)

mutual

/-- The query after a step. -/
def Step.run (q : Query) : Step → Query
  | .source table => q.withSource table
  | .select names => q.select names
  | .selectRaw sql values => q.selectRaw sql values
  | .distinct => q.selectDistinct
  | .join kind table first operator second => q.join kind table first operator second
  | .crossJoin table => q.crossJoin table
  | .compare connective column operator operand => q.compare connective column operator operand
  | .like column pattern negated => q.like column pattern negated
  | .inList column operands negated => q.inList column operands negated
  | .inQuery column steps negated => q.inQuery column (Step.runAll .empty steps) negated
  | .inDeferred column steps => q.inDeferred column fun _ => Step.runAll .empty steps
  | .null column negated => q.null column negated
  | .between column low high negated => q.between column low high negated
  | .compareColumns first operator second => q.compareColumns first operator second
  | .conditionRaw sql values => q.conditionRaw sql values
  | .group steps => q.group (Step.runAll .empty steps)
  | .hasRows steps negated => q.hasRows (Step.runAll .empty steps) negated
  | .groupBy names => q.groupBy names
  | .having name operator operand => q.having name operator operand
  | .havingRaw sql values => q.havingRaw sql values
  | .orderBy name direction => q.orderBy name direction
  | .orderByRaw sql values => q.orderByRaw sql values
  | .limit rows => q.take rows
  | .offset rows => q.skip rows
  | .change f => f q

/-- The query after steps in order. -/
def Step.runAll (q : Query) : List Step → Query
  | [] => q
  | step :: steps => Step.runAll (step.run q) steps

end

/-- The query that steps build. -/
def Query.build (steps : List Step) : Query := Step.runAll .empty steps

mutual

/-- Whether a step and the steps of its sub-queries are building methods. -/
def Step.builds : Step → Bool
  | .inQuery _ steps _ => Step.allBuild steps
  | .inDeferred _ steps => Step.allBuild steps
  | .group steps => Step.allBuild steps
  | .hasRows steps _ => Step.allBuild steps
  | .change _ => false
  | _ => true

/-- Whether all steps, at any depth, are building methods. -/
def Step.allBuild : List Step → Bool
  | [] => true
  | step :: steps => step.builds && Step.allBuild steps

end

/-! ## Steps one after another -/

theorem Step.runAll_append (q : Query) (steps more : List Step) :
    Step.runAll q (steps ++ more) = Step.runAll (Step.runAll q steps) more := by
  induction steps generalizing q with
  | nil => rfl
  | cons step steps ih => exact ih (step.run q)

end SqlDialect
