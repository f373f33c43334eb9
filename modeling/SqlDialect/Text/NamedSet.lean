import SqlDialect.Text.Ranges

/-!
# Sets of characters with names

Unicode gives its properties and their values a short and a long name. Names are compared loosely
(`looseName`): case, blanks, hyphens, underscores and an `is` in front do not count, nor does what
is not ASCII.
-/

namespace SqlDialect.Text

/-- A set of characters with the names it has. -/
structure NamedSet where
  names : List String
  ranges : Ranges
  deriving DecidableEq, Repr

/-- What follows an `is` in front of a name, if there is one. -/
def afterIs? : List Char → Option (List Char)
  | i :: s :: rest =>
    if (i = 'i' ∨ i = 'I') ∧ (s = 's' ∨ s = 'S') then some rest else none
  | _ => none

/-- The letters of a name that count: ASCII, small, without blanks, hyphens and underscores. -/
def plainLetters (name : List Char) : List Char :=
  (name.filter fun c => c ≠ ' ' && c ≠ '_' && c ≠ '-' && decide (c.toNat < 0x80)).map Char.toLower

/-- The part of a name that counts. An `is` in front does not, unless only a `c` is left then, since
`isc` is a name of its own. -/
def looseName (name : List Char) : List Char :=
  match afterIs? name with
  | some rest => if plainLetters rest = ['c'] then ['i', 's', 'c'] else plainLetters rest
  | none => plainLetters name

/-- Whether a loose name is one of the names of a set. -/
def NamedSet.isCalled (s : NamedSet) (loose : List Char) : Bool :=
  s.names.any fun name => looseName name.toList = loose

/-- The characters of the first set with a loose name. -/
def findNamed? (sets : List NamedSet) (loose : List Char) : Option Ranges :=
  (sets.find? fun s => s.isCalled loose).map NamedSet.ranges

end SqlDialect.Text
