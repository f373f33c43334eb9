import SqlDialect.Db2.Like
import SqlDialect.Db2.Pagination
import SqlDialect.Dialect.Select

/-!
# The dialect of DB2

DB2 differs from the standard decisions in the quoting of names, which can be turned off, in `LIKE`
(`SqlDialect.Db2.Like`), in membership in a list of one value, in savepoints, in the question
whether there are rows, and in limits and offsets for releases without clauses for them
(`SqlDialect.Db2.Pagination`).
-/

namespace SqlDialect.Db2

/-- The query that selects a constant from at most one of the rows. The values of the columns go
with the columns. -/
def existenceQuery (q : Query) : Query :=
  { q with
    columns := some [.raw "1 exists"]
    limit := some 1
    bindings := q.bindings.set .select [] }

/-- Membership in a list; a single value is compared instead. -/
def inList (s : Spelling) (column : Column) (operands : List Operand) (negated : Bool) : String :=
  match operands with
  | [.literal value] =>
    s.column column ++ (if negated then " <> " else " = ") ++ s.operand (.literal value)
  | operands => s.inList column operands negated

namespace Connection

variable (c : Connection)

/-- A segment of a name, between quotation marks unless they are turned off. -/
def quote (segment : String) : String :=
  if c.settings.quoteNames then Identifier.quoted segment else Identifier.doubled segment

/-- How names and operands are written. -/
def spelling : Spelling where
  tablePrefix := c.settings.tablePrefix
  quote := c.quote
  operand := Spelling.questionMark

/-- The offset for which rows are numbered, if there is one. -/
def numberedOffset? (q : Query) : Option UInt64 :=
  if c.settings.offsetCompatibility then activeOffset? q else none

/-- The dialect of a connection. -/
def dialect : Dialect where
  toSpelling := c.spelling
  name := "db2"
  timestampFormat := c.timestampFormat
  compare := Db2.compare c.spelling c.castPolicy
  inList := Db2.inList c.spelling
  limit := fun rows =>
    if c.settings.offsetCompatibility then "FETCH FIRST " ++ rows.toNat.repr ++ " ROWS ONLY"
    else Dialect.limitClause rows
  offset := fun rows =>
    if c.settings.offsetCompatibility then "" else Dialect.offsetClause rows
  savepoint := fun point => "SAVEPOINT " ++ point ++ " ON ROLLBACK RETAIN CURSORS"
  assemble := fun q fragments =>
    match c.numberedOffset? q with
    | some offset => paginate c.spelling q offset fragments
    | none => fragments.concatenate
  rebind := fun q =>
    match c.numberedOffset? q with
    | some _ => relocate q.bindings
    | none => q.bindings
  existence := fun select q => select (existenceQuery q)

/-- The statement of a query with its values. -/
def statement (q : Query) : Statement := c.dialect.statement q

/-- The statement that tells whether a query has rows, with its values. -/
def existenceStatement (q : Query) : Statement := c.dialect.statement (existenceQuery q)

end Connection

end SqlDialect.Db2
