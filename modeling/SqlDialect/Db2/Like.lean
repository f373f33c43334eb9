import SqlDialect.Db2.Connection
import SqlDialect.Spelling
import SqlDialect.Text.UpperCase

/-!
# Matching in any case

DB2 tells upper from lower case when it matches a text against a pattern, so both sides of `LIKE`
and `NOT LIKE` are written in upper case. Raw operands are taken to have the case that is wanted.

An operator is one of the two by its upper-case form without the blanks around it.
-/

namespace SqlDialect.Db2

/-- The operator as it is written if it is `LIKE` or `NOT LIKE`. -/
def likeOperator? (operator : String) : Option String :=
  let upper := Text.upper (Text.trim operator.toList)
  if upper = ['L', 'I', 'K', 'E'] then some "LIKE"
  else if upper = ['N', 'O', 'T', ' ', 'L', 'I', 'K', 'E'] then some "NOT LIKE"
  else none

/-- A column in upper case, cast to text first if the policy asks for it. -/
def upperColumn (s : Spelling) (policy : CastPolicy) : Column → String
  | .raw sql => sql
  | .named name =>
    if policy.casts name then "UPPER(CHAR(" ++ s.columnName name ++ "))"
    else "UPPER(" ++ s.columnName name ++ ")"

/-- An operand in upper case. -/
def upperOperand (s : Spelling) : Operand → String
  | .raw sql => sql
  | .literal value => "UPPER(" ++ s.operand (.literal value) ++ ")"

/-- A comparison; one by `LIKE` or `NOT LIKE` is made in upper case. -/
def compare (s : Spelling) (policy : CastPolicy) (column : Column) (operator : String)
    (operand : Operand) : String :=
  match likeOperator? operator with
  | some like => upperColumn s policy column ++ " " ++ like ++ " " ++ upperOperand s operand
  | none => s.comparison column operator operand

end SqlDialect.Db2
