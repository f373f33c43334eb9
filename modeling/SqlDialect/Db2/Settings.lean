/-!
# Settings

What can be chosen for a connection to DB2. Every setting has a default.
-/

namespace SqlDialect.Db2

/-- The settings of a connection. -/
structure Settings where
  /-- The format in which timestamps are bound; the default format if there is none. -/
  dateFormat : Option String := none
  /-- Number the rows to leave out an offset, and fetch the first rows for a limit, as releases
  without limit and offset clauses need it. -/
  offsetCompatibility : Bool := true
  /-- Write names between quotation marks. Bare names are folded to upper case by the database. -/
  quoteNames : Bool := true
  tablePrefix : String := ""
  /-- The pattern of the columns that are cast to text before they are matched; the default pattern
  if there is none. -/
  castPattern : Option String := none
  deriving DecidableEq, Repr

end SqlDialect.Db2
