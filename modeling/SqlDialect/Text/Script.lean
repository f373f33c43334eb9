import SqlDialect.Text.NamedSet
import SqlDialect.Text.Script.AToG
import SqlDialect.Text.Script.HToM
import SqlDialect.Text.Script.NToZ

/-!
# Sets of scripts

The sets of characters that are named by a script: those of the script (`scripts`), and those that
are used in it (`scriptExtensions`). In the second sense a character that only some scripts share is
no longer common, nor is a mark among them inherited.
-/

namespace SqlDialect.Text

open Ranges

/-- All scripts. -/
def allScripts : List Script := scriptsAToG ++ scriptsHToM ++ scriptsNToZ

/-- The characters by script. -/
def scripts : List NamedSet := allScripts.map fun s => ⟨s.names, s.ranges⟩

/-- The characters that only some scripts share. -/
def sharedCharacters : Ranges := unionAll (allScripts.map Script.shared)

/-- The characters that are used in a script. The common and the inherited ones are used in all, so
those that few scripts share are not among them. -/
def Script.extension (s : Script) : Ranges :=
  if s.shared.isEmpty then diff s.ranges sharedCharacters else s.ranges.union s.shared

/-- The characters by the scripts they are used in. -/
def scriptExtensions : List NamedSet := allScripts.map fun s => ⟨s.names, s.extension⟩

end SqlDialect.Text
