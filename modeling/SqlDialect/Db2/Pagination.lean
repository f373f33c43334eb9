import SqlDialect.Dialect

/-!
# Leaving out rows

Releases of DB2 without an offset clause number the rows in an inner statement and keep those whose
number is in a range. The order moves from its own clause into the numbering, that is, into the
select clause, and the values of its placeholders move with it (`relocate`).

A wildcard cannot share the select clause with the row number, so it is qualified with the name by
which the table is known.
-/

namespace SqlDialect.Db2

/-- The largest number of rows that can be asked for. -/
def rowLimit : Nat := UInt64.size - 1

/-- Columns with the row number behind them. They end in a blank, or in a comma and a blank. -/
def overClause (orderings columns : String) : String :=
  columns ++ "row_number() over (" ++ orderings ++ ") as row_num"

/-- The row numbers from `first` on, up to `last` if there is one. -/
structure RowRange where
  first : Nat
  last : Option Nat
  deriving DecidableEq, Repr

/-- The row numbers behind an offset, as many as a limit allows. A limit of no rows does not limit,
and numbers stop at the largest there is. -/
def RowRange.of (offset : UInt64) (limit : Option UInt64) : RowRange where
  first := min (offset.toNat + 1) rowLimit
  last :=
    match limit with
    | some limit => if 0 < limit then some (min (offset.toNat + limit.toNat) rowLimit) else none
    | none => none

/-- The condition that a row number is in the range. -/
def RowRange.text (r : RowRange) : String :=
  match r.last with
  | some last => "between " ++ r.first.repr ++ " and " ++ last.repr
  | none => ">= " ++ r.first.repr

/-- The statement that keeps those rows of a numbered statement that meet a condition. -/
def numberedRows (sql condition : String) : String :=
  "select * from (" ++ sql ++ ") as temp_table where row_num " ++ condition

/-- The name by which a table is known: its alias, if it has one. -/
def correlationName (table : String) : String :=
  match Identifier.splitAlias? table with
  | some (_, byname) => byname
  | none => table

/-- The text without the asterisks it ends in. -/
def dropAsterisks (text : String) : String :=
  String.ofList ((text.toList.reverse.dropWhile fun c => c == '*').reverse)

/-- Whether a select clause ends in a wildcard of its own. -/
def endsInWildcard (text : String) : Bool := [' ', '*'].isSuffixOf text.toList

/-- The select clause to which the row number is added. -/
def numberedColumns (s : Spelling) (columns source : Option String) : String :=
  match columns, source with
  | some columns, some source =>
    if endsInWildcard columns then
      dropAsterisks columns ++ s.table (correlationName source) ++ ".*, "
    else if columns ≠ "" then columns ++ ", "
    else "select "
  | some columns, none => if columns ≠ "" then columns ++ ", " else "select "
  | none, _ => "select "

/-- The statement of a query that leaves out rows. -/
def paginate (s : Spelling) (q : Query) (offset : UInt64) (fragments : Fragments) : String :=
  -- The rows cannot be numbered without an order.
  let orderings := fragments.orders.getD "order by 1"
  let inner := (fragments.erase .orders).erase .limit
  let columns := numberedColumns s inner.columns q.source
  numberedRows (inner.insert .columns (overClause orderings columns)).concatenate
    (RowRange.of offset q.limit).text

/-- The values of the order behind those of the select clause. -/
def relocate (b : Bindings) : Bindings :=
  let (values, rest) := b.take .order
  rest.extend .select values

/-- The offset of a query that leaves out at least one row. -/
def activeOffset? (q : Query) : Option UInt64 :=
  match q.offset with
  | some offset => if 0 < offset then some offset else none
  | none => none

end SqlDialect.Db2
