import SqlDialect.Identifier
import SqlDialect.Query

/-!
# Spelling of names and operands

A `Spelling` says how a segment of a name is quoted, what stands for an operand, and what is put
before table names. All else about names follows from it: `Spelling.column` and `Spelling.table`
quote the segments of a name one by one and write its alias behind ` as `.

The table prefix goes before the table: the last segment of a table name, and the last but one of
a column name.
-/

namespace SqlDialect

/-- How segments of names and operands are written. -/
structure Spelling where
  tablePrefix : String
  /-- The text of one segment of a name. -/
  quote : String → String
  /-- The placeholder of a value, or the text of a raw operand. -/
  operand : Operand → String

namespace Spelling

/-- A question mark for a value, and raw text as it is. -/
def questionMark : Operand → String
  | .literal _ => "?"
  | .raw sql => sql

/-- The spelling of standard SQL: segments between quotation marks and question marks for
values. -/
def standard (tablePrefix : String) : Spelling where
  tablePrefix := tablePrefix
  quote := Identifier.quoted
  operand := questionMark

variable (s : Spelling)

/-- Quoted segments with dots between them. -/
def path (segments : List String) : String := ".".intercalate (segments.map s.quote)

/-- One table name without an alias. -/
def tablePath (name : String) : String :=
  s.path (Identifier.prefixLast s.tablePrefix (Identifier.segments name))

/-- A column name without an alias. -/
def columnPath (name : String) : String :=
  s.path (Identifier.prefixOwner s.tablePrefix (Identifier.segments name))

/-- A table name. Its alias is a table name too and takes the prefix. -/
def table (name : String) : String :=
  " as ".intercalate ((Identifier.aliasChain name).map s.tablePath)

/-- A column name. Its alias is a single segment. -/
def columnName (name : String) : String :=
  match Identifier.splitAlias? name with
  | some (name, byname) => s.columnPath name ++ " as " ++ s.quote byname
  | none => s.columnPath name

/-- A column. -/
def column : Column → String
  | .named name => s.columnName name
  | .raw sql => sql

/-- Columns with commas between them. -/
def columns (cs : List Column) : String := ", ".intercalate (cs.map s.column)

/-- Operands with commas between them. -/
def operands (os : List Operand) : String := ", ".intercalate (os.map s.operand)

/-- Two columns and the operator between them. -/
def columnTest (t : ColumnTest) : String :=
  s.column t.first ++ " " ++ t.operator ++ " " ++ s.column t.second

/-- A column and an operand with the operator between them. -/
def comparison (column : Column) (operator : String) (operand : Operand) : String :=
  s.column column ++ " " ++ operator ++ " " ++ s.operand operand

end Spelling

end SqlDialect
