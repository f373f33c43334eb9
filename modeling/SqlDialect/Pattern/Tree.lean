import SqlDialect.Pattern.CharKind

/-!
# Written patterns

A pattern as it is written, with its groups, classes and flags. Patterns that are nested deeper than
`depthLimit` are refused.
-/

namespace SqlDialect.Pattern

open Text

/-! ## Flags -/

/-- The flags of patterns. -/
inductive Flag
  | ignoreCase
  | multiLine
  | dotAll
  | swapGreed
  | unicode
  | anyLineEnd
  | ignoreBlanks
  deriving DecidableEq, Repr

/-- The flag of a letter. -/
def Flag.ofLetter? : Char → Option Flag
  | 'i' => some .ignoreCase
  | 'm' => some .multiLine
  | 's' => some .dotAll
  | 'U' => some .swapGreed
  | 'u' => some .unicode
  | 'R' => some .anyLineEnd
  | 'x' => some .ignoreBlanks
  | _ => none

/-- Flags with the values they are set to. -/
abbrev FlagChange := List (Flag × Bool)

/-- The flags that bear on what a pattern matches. -/
structure Flags where
  ignoreCase : Bool := false
  multiLine : Bool := false
  dotAll : Bool := false
  unicode : Bool := true
  anyLineEnd : Bool := false
  deriving DecidableEq, Repr

/-- The flags with one set. -/
def Flags.set (f : Flags) : Flag × Bool → Flags
  | (.ignoreCase, value) => { f with ignoreCase := value }
  | (.multiLine, value) => { f with multiLine := value }
  | (.dotAll, value) => { f with dotAll := value }
  | (.unicode, value) => { f with unicode := value }
  | (.anyLineEnd, value) => { f with anyLineEnd := value }
  | (.swapGreed, _) => f
  | (.ignoreBlanks, _) => f

/-- The flags after a change. -/
def Flags.apply (f : Flags) (change : FlagChange) : Flags := change.foldl Flags.set f

/-! ## Trees -/

/-- A condition on a place as it is written. -/
inductive Assertion
  | lineStart
  | lineEnd
  | textStart
  | textEnd
  | wordBoundary
  | notWordBoundary
  | wordStart
  | wordEnd
  | wordStartHalf
  | wordEndHalf
  deriving DecidableEq, Repr

/-- The smallest parts of a pattern. -/
inductive Atom
  /-- A character; `byte` is set for one written by two hexadecimal digits. -/
  | literal (c : Char) (byte : Bool)
  | dot
  | assertion (a : Assertion)
  | kind (k : CharKind) (negated : Bool)
  | property (name : List Char) (negated : Bool)
  deriving DecidableEq, Repr

/-- An operation on classes. -/
inductive ClassOp
  | inter
  | diff
  | symmDiff
  deriving DecidableEq, Repr

/-- The inside of a class in brackets. -/
inductive ClassTree
  | empty
  | literal (c : Char)
  | range (first last : Char)
  | ascii (rs : Ranges) (negated : Bool)
  | kind (k : CharKind) (negated : Bool)
  | property (name : List Char) (negated : Bool)
  | bracket (negated : Bool) (inside : ClassTree)
  | union (items : List ClassTree)
  | op (o : ClassOp) (left right : ClassTree)
  deriving Repr

/-- A written pattern. -/
inductive Tree
  | empty
  | atom (a : Atom)
  | bracket (negated : Bool) (inside : ClassTree)
  | flags (change : FlagChange)
  /-- A group that is not numbered, with the flags that hold in it. -/
  | group (change : FlagChange) (inside : Tree)
  | capture (inside : Tree)
  | repetition (t : Tree) (least : Nat) (most : Option Nat)
  | seq (items : List Tree)
  | alt (branches : List Tree)
  deriving Repr

/-! ## Depth -/

mutual

/-- How deep brackets, unions and operations are nested. -/
def ClassTree.depth : ClassTree → Nat
  | .bracket _ inside => inside.depth + 1
  | .union items => ClassTree.depthOfAll items + 1
  | .op _ left right => max left.depth right.depth + 1
  | _ => 0

/-- The depth of the deepest item. -/
def ClassTree.depthOfAll : List ClassTree → Nat
  | [] => 0
  | item :: items => max item.depth (ClassTree.depthOfAll items)

end

mutual

/-- How deep the parts of a pattern are nested. -/
def Tree.depth : Tree → Nat
  | .bracket _ inside => inside.depth + 1
  | .group _ inside => inside.depth + 1
  | .capture inside => inside.depth + 1
  | .repetition t _ _ => t.depth + 1
  | .seq items => Tree.depthOfAll items + 1
  | .alt branches => Tree.depthOfAll branches + 1
  | _ => 0

/-- The depth of the deepest part. -/
def Tree.depthOfAll : List Tree → Nat
  | [] => 0
  | t :: ts => max t.depth (Tree.depthOfAll ts)

end

/-- The depth up to which patterns are accepted. -/
def depthLimit : Nat := 250

end SqlDialect.Pattern
