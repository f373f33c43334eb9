import SqlDialect.Text.Ranges

/-!
# Scripts

Each character is of one script, is common to all scripts, or is inherited from the character before
it. Some characters are used in a few scripts only: these are in the lists `Script.shared` of the
scripts that they are not of.
-/

namespace SqlDialect.Text

/-- A script with its names and characters. -/
structure Script where
  names : List String
  ranges : Ranges
  /-- The characters that are not of this script, but are used in it and in few others. -/
  shared : Ranges
  deriving DecidableEq, Repr

end SqlDialect.Text
