import SqlDialect.Pattern.Tree
import SqlDialect.Text.CaseFold
import SqlDialect.Text.Property

/-!
# Sets of characters in patterns

The sets that classes, kinds and named properties stand for (`ClassTree.set?`, `property?`).

With the flag `u` off, letters, kinds and case are those of ASCII. A class must then name ASCII
characters only, and it cannot be negated, since it would match bytes that are no characters.
-/

namespace SqlDialect.Pattern

open Text

/-- The set up to case, if the flags ask for it. -/
def foldSet (f : Flags) (s : Ranges) : Ranges :=
  if f.ignoreCase then (if f.unicode then s.folded else s.asciiFolded) else s

/-- The characters that are not in the set. Of ranges that end at 0xD7FF and go on at 0xE000, these
two characters are left, as if there were a range between them. -/
def negation (s : Ranges) : Ranges :=
  if (s.any fun r => r.2 = 0xD7FF) && (s.any fun r => r.1 = 0xE000) then
    s.compl.union [(0xD7FF, 0xE000)]
  else s.compl

/-- The negation of the set, if it is negated. -/
def negateSet? (f : Flags) (negated : Bool) (s : Ranges) : Option Ranges :=
  if negated then (if f.unicode then some (negation s) else none) else some s

/-- The characters of a kind. -/
def kindSet (f : Flags) (k : CharKind) : Ranges := if f.unicode then k.ranges else k.ascii

/-! ## Named properties -/

/-- A text cut at a separator: what is before its first place, and what is behind it. -/
def cutAt? (separator : List Char) : List Char → Option (List Char × List Char)
  | [] => none
  | c :: cs =>
    if separator.isPrefixOf (c :: cs) then some ([], (c :: cs).drop separator.length)
    else (cutAt? separator cs).map fun (before, after) => (c :: before, after)

/-- The characters of which a property has a value, both given by name. -/
def valueSet? (name value : List Char) : Option Ranges :=
  (ValuedProperty.ofName? (looseName name)).bind fun p => p.value? (looseName value)

/-- The set that a text names: a value of a property behind `=` or `:`, the other values behind
`!=`, or else a property, a category or a script. With it comes whether it is negated. -/
def namedSet? (text : List Char) : Option (Ranges × Bool) :=
  match cutAt? ['!', '='] text with
  | some (name, value) => (valueSet? name value).map fun s => (s, true)
  | none =>
    match (cutAt? [':'] text).or (cutAt? ['='] text) with
    | some (name, value) => (valueSet? name value).map fun s => (s, false)
    | none => (Text.property? (looseName text)).map fun s => (s, false)

/-- The set of a named property with its negation. -/
def property? (f : Flags) (text : List Char) (negated : Bool) : Option Ranges :=
  if f.unicode then
    (namedSet? text).bind fun (s, other) => negateSet? f (negated != other) (foldSet f s)
  else none

/-! ## Classes -/

/-- Whether a class may name a character. -/
def allows (f : Flags) (c : Char) : Bool := f.unicode || decide (c.toNat < 0x80)

/-- The set that an operation makes of two sets. -/
def ClassOp.apply : ClassOp → Ranges → Ranges → Ranges
  | .inter => Ranges.inter
  | .diff => Ranges.diff
  | .symmDiff => Ranges.symmDiff

mutual

/-- The set of the inside of a class. -/
def ClassTree.set? (f : Flags) : ClassTree → Option Ranges
  | .empty => some []
  | .literal c => if allows f c then some (Ranges.single c.toNat) else none
  | .range first last =>
    if allows f first && allows f last then some [(first.toNat, last.toNat)] else none
  | .ascii rs negated => negateSet? f negated (foldSet f rs)
  | .kind k negated => negateSet? f negated (kindSet f k)
  | .property name negated => property? f name negated
  | .bracket negated inside =>
    match inside.set? f with
    | some s => negateSet? f negated (foldSet f s)
    | none => none
  | .union items => ClassTree.unionOf? f items
  | .op o left right =>
    match left.set? f, right.set? f with
    | some l, some r => some (o.apply (foldSet f l) (foldSet f r))
    | _, _ => none

/-- The union of the sets of items. -/
def ClassTree.unionOf? (f : Flags) : List ClassTree → Option Ranges
  | [] => some []
  | item :: items =>
    match item.set? f, ClassTree.unionOf? f items with
    | some s, some t => some (s.union t)
    | _, _ => none

end

end SqlDialect.Pattern
