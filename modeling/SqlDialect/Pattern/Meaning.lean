import SqlDialect.Pattern.Build
import SqlDialect.Pattern.CharClass

/-!
# What written patterns stand for

The `Pattern` of a `Tree`. Flags hold from where they are written to the end of the group, through
all of its alternatives, so `Tree.pattern?` hands them on from left to right.

With the flag `u` off, whatever could match other text than whole characters is refused.
-/

namespace SqlDialect.Pattern

open Text

/-- The condition that an assertion stands for. -/
def Assertion.look (f : Flags) : Assertion → Look
  | .lineStart =>
    if f.multiLine then (if f.anyLineEnd then .anyLineStart else .lineStart) else .textStart
  | .lineEnd => if f.multiLine then (if f.anyLineEnd then .anyLineEnd else .lineEnd) else .textEnd
  | .textStart => .textStart
  | .textEnd => .textEnd
  | .wordBoundary => .wordBoundary !f.unicode
  | .notWordBoundary => .notWordBoundary !f.unicode
  | .wordStart => .wordStart !f.unicode
  | .wordEnd => .wordEnd !f.unicode
  | .wordStartHalf => .wordStartHalf !f.unicode
  | .wordEndHalf => .wordEndHalf !f.unicode

/-- The characters that a letter stands for. -/
def letterSet (f : Flags) (c : Char) : Ranges :=
  if f.ignoreCase then
    (if f.unicode then caseSet c.toNat
    else (Ranges.single c.toNat).union (Ranges.single (asciiOther c.toNat)))
  else Ranges.single c.toNat

/-- The characters that a dot stands for. -/
def dotSet (f : Flags) : Ranges :=
  if f.dotAll then Ranges.full
  else if f.anyLineEnd then Ranges.compl [(0xA, 0xA), (0xD, 0xD)]
  else Ranges.compl [(0xA, 0xA)]

/-- The pattern of an atom. -/
def Atom.pattern? (f : Flags) : Atom → Option Pattern
  | .literal c byte =>
    if !f.unicode && byte && decide (0x80 ≤ c.toNat) then none else some (ofSet (letterSet f c))
  | .dot => if f.unicode then some (ofSet (dotSet f)) else none
  | .assertion a => some (.look (a.look f))
  | .kind k negated => (negateSet? f negated (kindSet f k)).map ofSet
  | .property name negated => (property? f name negated).map ofSet

mutual

/-- The pattern of a tree that is read with some flags, and the flags after it. -/
def Tree.pattern? (f : Flags) : Tree → Option (Pattern × Flags)
  | .empty => some (.empty, f)
  | .atom a => (a.pattern? f).map fun p => (p, f)
  | .bracket negated inside =>
    ((ClassTree.bracket negated inside).set? f).map fun s => (ofSet s, f)
  | .flags change => some (.empty, f.apply change)
  | .group change inside => (inside.pattern? (f.apply change)).map fun (p, _) => (p, f)
  | .capture inside => (inside.pattern? f).map fun (p, _) => (.capture p, f)
  | .repetition t least most =>
    (t.pattern? f).map fun (p, after) => (repeated p least most, after)
  | .seq items => (Tree.patternsOf? f items).map fun (ps, after) => (concat ps, after)
  | .alt branches => (Tree.patternsOf? f branches).map fun (ps, after) => (choice ps, after)

/-- The patterns of trees, each read with the flags after the one before it. -/
def Tree.patternsOf? (f : Flags) : List Tree → Option (List Pattern × Flags)
  | [] => some ([], f)
  | t :: ts =>
    match t.pattern? f with
    | none => none
    | some (p, after) => (Tree.patternsOf? after ts).map fun (ps, last) => (p :: ps, last)

end

end SqlDialect.Pattern
