import SqlDialect.Db2.Settings.Document

/-!
# Errors

Writing statements never fails; only settings can be refused.
-/

namespace SqlDialect.Db2

/-- Why settings are refused. -/
inductive Error
  | invalidCastPattern (pattern : String)
  | invalidDateFormat (format : String)
  | document (fault : DocumentFault)
  deriving DecidableEq, Repr

/-- The message of an error. What is wrong with a pattern is not told, nor is the place where a
text is no JSON. -/
def Error.message : Error → String
  | .invalidCastPattern pattern => "Invalid char cast pattern '" ++ pattern ++ "': "
  | .invalidDateFormat format => "Invalid date format '" ++ format ++ "'"
  | .document fault => "Invalid configuration: " ++ fault.message?.getD ""

end SqlDialect.Db2
