import Std.Data.HashMap
import SqlDialect.Pattern.Basic
import SqlDialect.Pattern.Trie
import SqlDialect.Text.Utf8

/-!
# The size of automata

A pattern is searched for by two automata that read a text byte by byte, one forward and one
backward. Each has room for a limited number of states and arrows, and a pattern whose automata do
not fit is refused (`Pattern.fits`).

Only the sizes are computed here. A `Builder` adds up the states that the parts of a pattern take,
and fails as soon as there is no room left. Most states have one arrow, which takes no room of its
own; the arrows of a choice and of a state that tells bytes apart do.

Sets of characters share states: characters that end in the same bytes have these states in common
(`Sharing`). What may be shared is remembered in a table with few slots, so that a state may be
forgotten and made again. The slot depends on the numbers of states, and so each round of a
repetition is built on its own.
-/

namespace SqlDialect.Pattern

open Text

/-! ## Room -/

/-- The size of a part of an automaton. -/
structure Size where
  states : Nat := 0
  /-- The bytes of those arrows that take room of their own. -/
  arrows : Nat := 0
  deriving DecidableEq, Repr

/-- The bytes of states and arrows. -/
def Size.bytes (s : Size) : Nat := 32 * s.states + s.arrows

/-- The sum of two sizes. -/
def Size.add (s t : Size) : Size := ⟨s.states + t.states, s.arrows + t.arrows⟩

/-- The bytes that an automaton may have. -/
def sizeLimit : Nat := 10 * (1 <<< 20)

/-- The bytes of an arrow of a choice. -/
def choiceArrow : Nat := 4

/-- The bytes of an arrow that belongs to a range of bytes. -/
def rangeArrow : Nat := 8

/-- A step of building, which fails if there is no room. -/
abbrev Builder := StateT Size Option

namespace Builder

/-- Take room. -/
def grow (more : Size) : Builder Unit := fun s =>
  let t := s.add more
  if t.bytes ≤ sizeLimit then some ((), t) else none

/-- Add so many states. -/
def addStates (n : Nat) : Builder Unit := grow ⟨n, 0⟩

/-- Add arrows of a choice. -/
def addChoices (n : Nat) : Builder Unit := grow ⟨0, choiceArrow * n⟩

/-- Lead on from the end of a part, which takes an arrow if the part ends in a choice. -/
def leave (inChoice : Bool) : Builder Unit := if inChoice then addChoices 1 else pure ()

/-- Add one state and tell its number. -/
def newState (arrows : Nat) : Builder Nat := do
  let number := (← get).states
  grow ⟨1, arrows⟩
  return number

end Builder

open Builder

/-- The directions in which a text is read. -/
inductive Direction
  | forward
  | backward
  deriving DecidableEq, Repr

/-! ## Sets of characters -/

/-- The states that can be shared: by slot, what such a state stands for and its number. -/
abbrev Sharing := StateT (Std.HashMap Nat (List Nat × Nat)) Builder

/-- The slot of a list of numbers, one of so many. -/
def slot (slots : Nat) (numbers : List Nat) : Nat :=
  let hash := numbers.foldl (fun h n => (h ^^^ UInt64.ofNat n) * 1099511628211)
    (14695981039346656037 : UInt64)
  hash.toNat % slots

/-- The state for a list of numbers; a new one with so many bytes of arrows if it is not
remembered. -/
def share (slots arrows : Nat) (numbers : List Nat) : Sharing Nat := do
  let i := slot slots numbers
  match (← get)[i]? with
  | some (known, state) => if known = numbers then return state else make i
  | none => make i
where
  /-- A new state, which takes the slot. -/
  make (i : Nat) : Sharing Nat := do
    let state ← newState arrows
    modify fun table => table.insert i (numbers, state)
    return state

/-- The state from which sequences of ranges of bytes, up to so many long, lead to the target.
Sequences that begin alike stand side by side. -/
def shareForward (target : Nat) : Nat → List (List (Nat × Nat)) → Sharing Nat
  | 0, _ => return target
  | depth + 1, sequences =>
    if sequences.all List.isEmpty then return target
    else do
      let arrows ← (sequences.splitBy fun a b => a.head? == b.head?).mapM fun group => do
        let next ← shareForward target depth (group.map List.tail)
        match group with
        | ((first, last) :: _) :: _ => return [first, last, next]
        | _ => return []
      share 10000 (rangeArrow * arrows.length) arrows.flatten

/-- The states from which the target is reached by a sequence of ranges of bytes, read backward. -/
def shareBackward (target : Nat) (sequence : List (Nat × Nat)) : Sharing Nat :=
  sequence.foldlM (fun state (first, last) => share 1000 0 [state, first, last]) target

/-- Build a set of characters. -/
def buildSet (d : Direction) (s : Ranges) : Builder Unit :=
  if s.all fun r => decide (r.2 < 0x80) then grow ⟨2, rangeArrow * s.length⟩
  else
    let sequences := s.flatMap fun (first, last) => byteRanges first last
    match d with
    | .forward => do
      let target ← newState 0
      let _ ← (shareForward target 4 sequences).run ∅
    | .backward => do
      addStates 1
      let target ← newState 0
      let _ ← (sequences.forM fun sequence => do
        let _ ← shareBackward target sequence
        addChoices 1 : Sharing Unit).run ∅

/-! ## Words -/

mutual

/-- The size of the states of a trie, but for the one that all words lead to. -/
def Trie.size : Trie → Size
  | .node ended current =>
    (sizeOfGroups ended).add ((groupSize current).add
      ((sizeOfBranches current).add ⟨1, choiceArrow * ended.length⟩))

/-- The size of all groups of branches. -/
def Trie.sizeOfGroups : List (List (Nat × Trie)) → Size
  | [] => {}
  | branches :: groups =>
    (groupSize branches).add ((sizeOfBranches branches).add (sizeOfGroups groups))

/-- The size of what the branches of a group lead to. -/
def Trie.sizeOfBranches : List (Nat × Trie) → Size
  | [] => {}
  | (_, t) :: rest => (if t.isLeaf then {} else t.size).add (sizeOfBranches rest)

/-- The size of the state that tells the branches of a group apart. -/
def Trie.groupSize : List (Nat × Trie) → Size
  | [] => {}
  | [_] => ⟨1, choiceArrow⟩
  | branches => ⟨1, choiceArrow + rangeArrow * branches.length⟩

end

/-- The bytes of a literal. -/
def wordBytes? (d : Direction) : Pattern → Option (List Nat)
  | .literal word =>
    match d with
    | .forward => some (utf8Bytes word)
    | .backward => some (utf8Bytes word).reverse
  | _ => none

/-- Build a choice of words. -/
def buildWords (words : List (List Nat)) : Builder Unit := do
  addStates 1
  grow (Trie.ofWords words).size

/-! ## Repetitions

A part is built by a step that tells whether the part ends in a choice. -/

/-- Build a part so many times more, behind a part that does or does not end in a choice. -/
def buildMore (once : Builder Bool) : Nat → Bool → Builder Bool
  | 0, inChoice => return inChoice
  | n + 1, inChoice => do
    let last ← once
    leave inChoice
    buildMore once n last

/-- Build a part so many times. -/
def buildTimes (once : Builder Bool) : Nat → Builder Bool
  | 0 => do
    addStates 1
    return false
  | n + 1 => buildMore once (n + 1) false

/-- Build so many rounds that may be left out, behind a part that does or does not end in a
choice. -/
def buildOptional (once : Builder Bool) : Nat → Bool → Builder Bool
  | 0, inChoice => return inChoice
  | n + 1, inChoice => do
    addStates 1
    let last ← once
    leave inChoice
    addChoices 2
    buildOptional once n last

/-- Build the rounds of a part, of which it may be known that it takes a character at least. -/
def buildRounds (once : Builder Bool) (takesSome : Bool) (least : Nat) (most : Option Nat) :
    Builder Bool :=
  match least, most with
  | 0, some 1 => do
    let _ ← buildOptional once 1 false >>= leave
    addStates 1
    return false
  | 0, none =>
    if takesSome then do
      addStates 1
      once >>= leave
      addChoices 1
      return true
    else do
      once >>= leave
      addStates 3
      addChoices 4
      return false
  | n + 1, none => do
    let before ← if n = 0 then pure false else buildTimes once n
    once >>= leave
    leave before
    addStates 1
    addChoices 1
    return true
  | least, some most =>
    if least = most then buildTimes once least
    else do
      let before ← buildTimes once least
      addStates 1
      buildOptional once (most - least) before >>= leave
      return false

/-! ## Patterns -/

mutual

/-- Build a pattern. -/
def build (d : Direction) : Pattern → Builder Bool
  | .empty => do
    addStates 1
    return false
  | .literal word => do
    addStates (utf8Bytes word).length
    return false
  | .set s => do
    buildSet d s
    return false
  | .look _ => do
    addStates 1
    return false
  | .seq ps =>
    match d with
    | .forward => buildForward ps false
    | .backward => buildBackward ps
  | .alt ps => do
    match ps.mapM (wordBytes? d) with
    | some words => buildWords words
    | none => buildBranches d 0 ps
    return false
  | .repetition p least most =>
    buildRounds (build d p) (p.minLength?.any fun n => decide (0 < n)) least most
  | .capture p =>
    match d with
    | .forward => do
      addStates 1
      build .forward p >>= leave
      addStates 1
      return false
    | .backward => build .backward p

/-- Build patterns one after another. -/
def buildForward : List Pattern → Bool → Builder Bool
  | [], inChoice => return inChoice
  | p :: ps, inChoice => do
    let last ← build .forward p
    leave inChoice
    buildForward ps last

/-- Build patterns from the last to the first. -/
def buildBackward : List Pattern → Builder Bool
  | [] => return false
  | p :: ps => do
    let inChoice ← buildBackward ps
    let last ← build .backward p
    leave inChoice
    return last

/-- Build the branches of a choice, after so many others. The two states that hold the branches
together come behind the second one. -/
def buildBranches (d : Direction) : Nat → List Pattern → Builder Unit
  | _, [] => return ()
  | i, p :: ps => do
    build d p >>= leave
    addChoices 1
    if i = 1 then addStates 2
    buildBranches d (i + 1) ps

end

/-! ## Ends of texts -/

mutual

/-- Whether a match can only begin where a condition holds. -/
def beginsAt (l : Look) : Pattern → Bool
  | .look k => k = l
  | .seq ps => allBeginAt l ps
  | .alt ps => !ps.isEmpty && eachBeginsAt l ps
  | .repetition p least _ => decide (0 < least) && p.beginsAt l
  | .capture p => p.beginsAt l
  | _ => false

/-- Whether a match of patterns one after another can only begin where a condition holds. -/
def allBeginAt (l : Look) : List Pattern → Bool
  | [] => false
  | p :: ps => p.beginsAt l || (p.matchesEmptyOnly && allBeginAt l ps)

/-- Whether matches of all the patterns can only begin where a condition holds. -/
def eachBeginsAt (l : Look) : List Pattern → Bool
  | [] => true
  | p :: ps => p.beginsAt l && eachBeginsAt l ps

end

mutual

/-- Whether a match can only end where a condition holds. -/
def endsAt (l : Look) : Pattern → Bool
  | .look k => k = l
  | .seq ps => allEndAt l ps
  | .alt ps => !ps.isEmpty && eachEndsAt l ps
  | .repetition p least _ => decide (0 < least) && p.endsAt l
  | .capture p => p.endsAt l
  | _ => false

/-- Whether a match of patterns one after another can only end where a condition holds. -/
def allEndAt (l : Look) : List Pattern → Bool
  | [] => false
  | p :: ps => allEndAt l ps || (ps.all matchesEmptyOnly && p.endsAt l)

/-- Whether matches of all the patterns can only end where a condition holds. -/
def eachEndsAt (l : Look) : List Pattern → Bool
  | [] => true
  | p :: ps => p.endsAt l && eachEndsAt l ps

end

/-! ## Whole automata -/

/-- Build what skips the text before a match, unless a match begins at the end that is read
first. -/
def buildStart (anchored : Bool) : Builder Unit :=
  if anchored then addStates 1 else grow ⟨3, 2 * choiceArrow + rangeArrow⟩

/-- Build the automaton of a pattern. The one that reads forward also marks where the match begins
and ends. -/
def automaton (p : Pattern) : Direction → Builder Unit
  | .forward => do
    buildStart (p.beginsAt .textStart)
    let _ ← build .forward (.capture p)
    addStates 1
  | .backward => do
    buildStart (p.endsAt .textEnd)
    build .backward p >>= leave
    addStates 1

/-- Whether the pattern is a choice of so many words that they are searched for in another way. -/
def isWordList : Pattern → Bool
  | .alt ps => decide (3000 ≤ ps.length) && ps.all fun p => (wordBytes? .forward p).isSome
  | _ => false

/-- Whether the automata of the pattern have room. -/
def fits (p : Pattern) : Bool :=
  p.isWordList || ((p.automaton .forward).run {}).isSome && ((p.automaton .backward).run {}).isSome

end SqlDialect.Pattern
