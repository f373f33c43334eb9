import SqlDialect.Fragments
import SqlDialect.Spelling
import SqlDialect.Timestamp.Format

/-!
# Dialects

A `Dialect` is a spelling together with the decisions that dialects make differently: how a
comparison and a membership in a list read, the limit and offset clauses, how fragments become a
statement, what compiling in place does to the bindings, and how one asks whether there are rows.

`Dialect.ofSpelling` makes the standard decisions for a spelling, and `Dialect.generic` is standard
SQL with a table prefix. The rest of the module writes the clauses that hold no sub-query; the
statement as a whole is written in `SqlDialect.Dialect.Select`.
-/

namespace SqlDialect

/-- A spelling with the decisions that dialects make differently. -/
structure Dialect extends Spelling where
  name : String
  /-- The format in which timestamps are bound. -/
  timestampFormat : String
  /-- A column compared with an operand. -/
  compare : Column → String → Operand → String
  /-- A column tested for membership in a list, negated if the flag is set. -/
  inList : Column → List Operand → Bool → String
  limit : UInt64 → String
  offset : UInt64 → String
  savepoint : String → String
  /-- The statement for a query whose clauses are written. -/
  assemble : Query → Fragments → String
  /-- The bindings of a query after it has been compiled in place. -/
  rebind : Query → Bindings
  /-- The statement that tells whether a query has rows, given how a query is selected. -/
  existence : (Query → String) → Query → String

/-! ## Standard decisions -/

namespace Spelling

variable (s : Spelling)

/-- The operator of a membership test. -/
def memberOperator (negated : Bool) : String := if negated then "not in" else "in"

/-- A column and a parenthesised text with the operator of a membership test between them. -/
def member (column : Column) (negated : Bool) (inside : String) : String :=
  s.column column ++ " " ++ memberOperator negated ++ " (" ++ inside ++ ")"

/-- What an empty list decides: nothing is in it. -/
def emptyMember (negated : Bool) : String := if negated then "1 = 1" else "0 = 1"

/-- Membership in a list of operands. -/
def inList (column : Column) (os : List Operand) (negated : Bool) : String :=
  if os.isEmpty then emptyMember negated else s.member column negated (s.operands os)

/-- The question whether a statement has rows, as a column. -/
def existsColumn (sql : String) : String :=
  "select exists(" ++ sql ++ ") as " ++ s.quote "exists"

end Spelling

namespace Dialect

/-- The limit clause of standard SQL. -/
def limitClause (rows : UInt64) : String := "limit " ++ rows.toNat.repr

/-- The offset clause of standard SQL. -/
def offsetClause (rows : UInt64) : String := "offset " ++ rows.toNat.repr

/-- The dialect that decides everything else in the standard way. -/
def ofSpelling (name : String) (s : Spelling) (timestampFormat : String) : Dialect where
  toSpelling := s
  name := name
  timestampFormat := timestampFormat
  compare := s.comparison
  inList := s.inList
  limit := limitClause
  offset := offsetClause
  savepoint := fun point => "SAVEPOINT " ++ point
  assemble := fun _ fragments => fragments.concatenate
  rebind := Query.bindings
  existence := fun select q => s.existsColumn (select q)

/-- Standard SQL with a prefix for table names. -/
def generic (tablePrefix : String) : Dialect :=
  ofSpelling "generic" (.standard tablePrefix) Format.default

/-! ## Timestamps -/

/-- A timestamp as it is bound. -/
def writeTimestamp (d : Dialect) (t : Timestamp) : String := Format.write d.timestampFormat t

/-- Values as they are bound: timestamps are written as texts. -/
def prepare (d : Dialect) (values : List Value) : List Value :=
  values.map fun
    | .timestamp t => .text (d.writeTimestamp t)
    | value => value

theorem prepare_append (d : Dialect) (values more : List Value) :
    d.prepare (values ++ more) = d.prepare values ++ d.prepare more :=
  List.map_append

@[simp] theorem length_prepare (d : Dialect) (values : List Value) :
    (d.prepare values).length = values.length :=
  List.length_map _

@[simp] theorem prepare_eq_nil {d : Dialect} {values : List Value} :
    d.prepare values = [] ↔ values = [] :=
  List.map_eq_nil_iff

end Dialect

/-! ## Clauses without sub-queries -/

/-- Conditions one after another, each with its connective but the first. -/
def continued : List (Connective × String) → String
  | [] => ""
  | (connective, text) :: rest => " " ++ connective.text ++ " " ++ text ++ continued rest

/-- Conditions joined by their connectives; that of the first is not used. -/
def chain : List (Connective × String) → String
  | [] => ""
  | (_, text) :: rest => text ++ continued rest

namespace Spelling

variable (s : Spelling)

/-- The select clause. Without columns it selects all of them. -/
def selectClause (q : Query) : String :=
  (if q.distinct then "select distinct" else "select") ++ " " ++
    match q.columns with
    | some (c :: cs) => s.columns (c :: cs)
    | _ => "*"

/-- One join. -/
def join (j : Join) : String :=
  j.kind.text ++ " join " ++ s.table j.table ++
    if j.on.isEmpty then "" else " on " ++ " and ".intercalate (j.on.map s.columnTest)

/-- Joins one after another. -/
def joinClause (js : List Join) : String := " ".intercalate (js.map s.join)

/-- The condition of a having clause. -/
def havingTest : HavingTest → String
  | .compare column operator operand => s.comparison column operator operand
  | .raw sql => sql

/-- The conditions of a having clause, joined by their connectives. -/
def havingConditions (hs : List Having) : String :=
  chain (hs.map fun h => (h.connective, s.havingTest h.test))

/-- The having clause. -/
def havingClause (hs : List Having) : String := "having " ++ s.havingConditions hs

/-- One key of an order. -/
def sortKey : SortKey → String
  | .column column direction => s.column column ++ " " ++ direction.text
  | .raw sql => sql

/-- The order clause. -/
def orderClause (keys : List SortKey) : String :=
  "order by " ++ ", ".intercalate (keys.map s.sortKey)

end Spelling

/-- The where clause of conditions given as texts; there is none if nothing is written. -/
def whereClause (conditions : List (Connective × String)) : String :=
  let text := chain conditions
  if text = "" then "" else "where " ++ text

namespace Dialect

/-- The fragments of a query whose conditions are given as texts. A clause that is not used has
none. -/
def fragmentsWith (d : Dialect) (q : Query) (conditions : List (Connective × String)) :
    Fragments where
  columns := some (d.selectClause q)
  source := q.source.map fun table => "from " ++ d.table table
  joins := if q.joins.isEmpty then none else some (d.joinClause q.joins)
  conditions := if q.conditions.isEmpty then none else some (whereClause conditions)
  groups := if q.groups.isEmpty then none else some ("group by " ++ d.columns q.groups)
  havings := if q.havings.isEmpty then none else some (d.havingClause q.havings)
  orders := if q.orders.isEmpty then none else some (d.orderClause q.orders)
  limit := q.limit.map d.limit
  offset := q.offset.map d.offset

end Dialect

/-! ## Chains -/

theorem continued_append (a b : List (Connective × String)) :
    continued (a ++ b) = continued a ++ continued b := by
  induction a with
  | nil => simp [continued]
  | cons p a ih =>
    obtain ⟨connective, text⟩ := p
    simp only [List.cons_append, continued, ih, String.append_assoc]

end SqlDialect
