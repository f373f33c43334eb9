import SqlDialect.Dialect

/-!
# Statements

The `select` statement of a query in a dialect. Conditions hold sub-queries, and these are written
by the same dialect, so statement, conditions and predicates are defined together, by recursion on
the query. `Dialect.select_eq` puts the statement back together from its fragments.

Compiling in place (`Dialect.selectInPlace`) gives the text and the query with the bindings that
the dialect leaves behind; `Dialect.statement` pairs the text with the values for its placeholders.
-/

namespace SqlDialect

namespace Dialect

/-! ## Recursion on queries -/

mutual

/-- The `select` statement of a query. -/
def select (d : Dialect) : Query → String
  | ⟨distinct, columns, source, joins, conditions, groups, havings, orders, limit, offset,
      bindings⟩ =>
    let q : Query := ⟨distinct, columns, source, joins, conditions, groups, havings, orders, limit,
      offset, bindings⟩
    d.assemble q (d.fragmentsWith q (d.conditionTexts conditions))

/-- The texts of conditions, each with its connective. -/
def conditionTexts (d : Dialect) : List Clause → List (Connective × String)
  | [] => []
  | clause :: rest => d.conditionText clause :: d.conditionTexts rest

/-- The text of a condition with its connective. -/
def conditionText (d : Dialect) : Clause → Connective × String
  | ⟨connective, predicate⟩ => (connective, d.predicate predicate)

/-- A predicate. -/
def predicate (d : Dialect) : Predicate → String
  | .compare column operator operand => d.compare column operator operand
  | .member column source negated => d.member column negated source
  | .null column negated => d.column column ++ (if negated then " is not null" else " is null")
  | .between column low high negated =>
    d.column column ++ (if negated then " not between " else " between ") ++ d.operand low ++
      " and " ++ d.operand high
  | .compareColumns test => d.columnTest test
  | .raw sql => sql
  | .group clauses => "(" ++ chain (d.conditionTexts clauses) ++ ")"
  | .hasRows query negated =>
    (if negated then "not exists (" else "exists (") ++ d.select query ++ ")"

/-- A membership test. -/
def member (d : Dialect) (column : Column) (negated : Bool) : Source → String
  | .list operands => d.inList column operands negated
  | .query query => d.toSpelling.member column negated (d.select query)
  | .deferred build => d.toSpelling.member column negated (d.select (build ()))

end

/-! ## Fragments and conditions -/

/-- The conditions joined by their connectives. -/
def conditions (d : Dialect) (clauses : List Clause) : String := chain (d.conditionTexts clauses)

/-- The fragments of a query. -/
def fragments (d : Dialect) (q : Query) : Fragments :=
  d.fragmentsWith q (d.conditionTexts q.conditions)

theorem select_eq (d : Dialect) (q : Query) : d.select q = d.assemble q (d.fragments q) := by
  cases q
  simp only [select, fragments]

theorem conditionTexts_eq_map (d : Dialect) (clauses : List Clause) :
    d.conditionTexts clauses = clauses.map fun c => (c.connective, d.predicate c.predicate) := by
  induction clauses with
  | nil => simp [conditionTexts]
  | cons clause rest ih =>
    cases clause
    simp [conditionTexts, conditionText, ih]

theorem predicate_group (d : Dialect) (clauses : List Clause) :
    d.predicate (.group clauses) = "(" ++ d.conditions clauses ++ ")" := by
  simp only [predicate, conditions]

/-- A predicate in which a comparison or a membership in a list is written in the standard way,
whatever the dialect decides. -/
def standardPredicate (d : Dialect) : Predicate → String
  | .compare column operator operand => d.comparison column operator operand
  | .member column (.list operands) negated => d.toSpelling.inList column operands negated
  | p => d.predicate p

/-! ## Compiling -/

/-- The statement that tells whether a query has rows. -/
def hasRows (d : Dialect) (q : Query) : String := d.existence d.select q

/-- The statement and the query as compiling leaves it: only its bindings may differ. -/
def selectInPlace (d : Dialect) (q : Query) : String × Query :=
  (d.select q, { q with bindings := d.rebind q })

end Dialect

/-- A text with the values for its placeholders, in order. -/
structure Statement where
  sql : String
  values : List Value

/-- The statement of a query with its values as they are bound. -/
def Dialect.statement (d : Dialect) (q : Query) : Statement where
  sql := d.select q
  values := d.prepare (d.rebind q).flatten

end SqlDialect
