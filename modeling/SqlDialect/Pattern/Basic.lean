import SqlDialect.Text.Word

/-!
# Patterns

Regular expressions with conditions on a place in the text (`Look`), and how they are searched for.
A search keeps one mark for each place of the text, the places being before each character and at
the end. `Pattern.advance` moves marks from the places where a match begins to those where it can
end; `Pattern.isIn` begins at all places and asks for any end.

A repetition of `n` rounds or more than the text has characters holds a round that matches nothing,
so rounds beyond the length of the text change no mark, and none are run.
-/

namespace SqlDialect

open Text

/-! ## Places in a text -/

/-- A condition on a place in a text. -/
inductive Look
  | textStart
  | textEnd
  | lineStart
  | lineEnd
  /-- The start of a line that a carriage return may end, too. -/
  | anyLineStart
  | anyLineEnd
  | wordBoundary (ascii : Bool)
  | notWordBoundary (ascii : Bool)
  | wordStart (ascii : Bool)
  | wordEnd (ascii : Bool)
  | wordStartHalf (ascii : Bool)
  | wordEndHalf (ascii : Bool)
  deriving DecidableEq, Repr

namespace Look

/-- Whether there is a word character on one side of a place. -/
def wordOn (ascii : Bool) (side : Option Char) : Bool :=
  side.any (if ascii then isAsciiWord else isWord)

/-- Whether the condition holds between two characters, either of which may be missing. -/
def holds (before after : Option Char) : Look → Bool
  | .textStart => before.isNone
  | .textEnd => after.isNone
  | .lineStart => before.isNone || before == some '\n'
  | .lineEnd => after.isNone || after == some '\n'
  | .anyLineStart =>
    before.isNone || before == some '\n' || (before == some '\r' && after != some '\n')
  | .anyLineEnd => after.isNone || after == some '\r' || (after == some '\n' && before != some '\r')
  | .wordBoundary ascii => wordOn ascii before != wordOn ascii after
  | .notWordBoundary ascii => wordOn ascii before == wordOn ascii after
  | .wordStart ascii => !wordOn ascii before && wordOn ascii after
  | .wordEnd ascii => wordOn ascii before && !wordOn ascii after
  | .wordStartHalf ascii => !wordOn ascii before
  | .wordEndHalf ascii => !wordOn ascii after

end Look

/-! ## Patterns -/

/-- A regular expression. -/
inductive Pattern
  | empty
  | literal (word : List Char)
  /-- One character of a set. -/
  | set (s : Ranges)
  | look (l : Look)
  | seq (ps : List Pattern)
  | alt (ps : List Pattern)
  /-- At least so many rounds of `p`, and at most so many if there is a bound. -/
  | repetition (p : Pattern) (least : Nat) (most : Option Nat)
  /-- A numbered group, which matches what `p` matches. -/
  | capture (p : Pattern)
  deriving Repr

namespace Pattern

/-! ## Equality -/

mutual

/-- Whether two patterns are the same. -/
def same : Pattern → Pattern → Bool
  | .empty, .empty => true
  | .literal a, .literal b => decide (a = b)
  | .set a, .set b => decide (a = b)
  | .look a, .look b => decide (a = b)
  | .seq ps, .seq qs => sameAll ps qs
  | .alt ps, .alt qs => sameAll ps qs
  | .repetition p a b, .repetition q c d => same p q && decide (a = c) && decide (b = d)
  | .capture p, .capture q => same p q
  | _, _ => false

/-- Whether the patterns of two lists are the same. -/
def sameAll : List Pattern → List Pattern → Bool
  | [], [] => true
  | p :: ps, q :: qs => same p q && sameAll ps qs
  | _, _ => false

end

mutual

theorem same_self (p : Pattern) : same p p = true := by
  cases p with
  | empty => rfl
  | literal a => simp [same]
  | set s => simp [same]
  | look l => simp [same]
  | seq ps => rw [same]; exact sameAll_self ps
  | alt ps => rw [same]; exact sameAll_self ps
  | repetition p a b => simp [same, same_self p]
  | capture p => rw [same]; exact same_self p

theorem sameAll_self (ps : List Pattern) : sameAll ps ps = true := by
  cases ps with
  | nil => rfl
  | cons p ps => rw [sameAll, same_self p, sameAll_self ps]; rfl

end

mutual

theorem eq_of_same (p q : Pattern) (h : same p q = true) : p = q := by
  match p, q with
  | .empty, .empty => rfl
  | .literal a, .literal b => simpa [same] using h
  | .set a, .set b => simpa [same] using h
  | .look a, .look b => simpa [same] using h
  | .seq ps, .seq qs => rw [same] at h; rw [eq_of_sameAll ps qs h]
  | .alt ps, .alt qs => rw [same] at h; rw [eq_of_sameAll ps qs h]
  | .repetition p a b, .repetition q c d =>
    simp only [same, Bool.and_eq_true, decide_eq_true_eq] at h
    rw [eq_of_same p q h.1.1, h.1.2, h.2]
  | .capture p, .capture q => rw [same] at h; rw [eq_of_same p q h]

theorem eq_of_sameAll (ps qs : List Pattern) (h : sameAll ps qs = true) : ps = qs := by
  match ps, qs with
  | [], [] => rfl
  | p :: ps, q :: qs =>
    rw [sameAll, Bool.and_eq_true] at h
    rw [eq_of_same p q h.1, eq_of_sameAll ps qs h.2]

end

theorem same_iff {p q : Pattern} : same p q = true ↔ p = q :=
  ⟨eq_of_same p q, fun h => h ▸ same_self p⟩

instance : DecidableEq Pattern := fun p q => decidable_of_iff (same p q = true) same_iff

/-! ## Searching -/

/-- The marks that are in either list. -/
def either (marks others : List Bool) : List Bool := List.zipWith (· || ·) marks others

/-- The marks behind one character that passes a test. -/
def past (text : List Char) (test : Char → Bool) (marks : List Bool) : List Bool :=
  false :: List.zipWith (fun mark c => mark && test c) marks text

/-- The marks after so many rounds. -/
def rounds (round : List Bool → List Bool) : Nat → List Bool → List Bool
  | 0, marks => marks
  | n + 1, marks => rounds round n (round marks)

/-- The marks that up to so many rounds can reach. It ends when a round brings nothing new. -/
def upTo (round : List Bool → List Bool) : Nat → List Bool → List Bool
  | 0, marks => marks
  | n + 1, marks =>
    let more := either marks (round marks)
    if more = marks then marks else upTo round n more

/-- The two sides of each place of a text. -/
def sides (text : List Char) : List (Option Char × Option Char) :=
  List.zip (none :: text.map some) (text.map some ++ [none])

mutual

/-- The places where a match can end that begins at a marked place. -/
def advance (text : List Char) : Pattern → List Bool → List Bool
  | .empty => id
  | .literal word => fun marks => word.foldl (fun marks c => past text (· == c) marks) marks
  | .set s => past text s.has
  | .look l => fun marks =>
    List.zipWith (fun mark (before, after) => mark && l.holds before after) marks (sides text)
  | .seq ps => advanceAll text ps
  | .alt ps => advanceAny text ps
  | .repetition p least most => fun marks =>
    let reached := rounds (p.advance text) (min least (text.length + 1)) marks
    let further :=
      match most with
      | some most => min (most - least) (text.length + 1)
      | none => text.length + 1
    upTo (p.advance text) further reached
  | .capture p => p.advance text

/-- The places where a match of all patterns, one after another, can end. -/
def advanceAll (text : List Char) : List Pattern → List Bool → List Bool
  | [] => id
  | p :: ps => fun marks => advanceAll text ps (p.advance text marks)

/-- The places where a match of one of the patterns can end. -/
def advanceAny (text : List Char) : List Pattern → List Bool → List Bool
  | [] => List.map fun _ => false
  | p :: ps => fun marks => either (p.advance text marks) (advanceAny text ps marks)

end

/-- Whether the pattern matches some part of a text. -/
def isIn (p : Pattern) (text : String) : Bool :=
  (p.advance text.toList (List.replicate (text.length + 1) true)).any id

/-! ## Lengths -/

mutual

/-- The least number of characters of a match. It is not told where a part can match nothing. -/
def minLength? : Pattern → Option Nat
  | .empty => some 0
  | .literal word => some word.length
  | .set s => if s.isEmpty then none else some 1
  | .look _ => some 0
  | .seq ps => minOfAll? ps
  | .alt ps => minOfAny? ps
  | .repetition p least _ => p.minLength?.map fun n => n * least
  | .capture p => p.minLength?

/-- The least number of characters of matches one after another. -/
def minOfAll? : List Pattern → Option Nat
  | [] => some 0
  | p :: ps =>
    match p.minLength?, minOfAll? ps with
    | some m, some n => some (m + n)
    | _, _ => none

/-- The least number of characters of a match of one of the patterns. -/
def minOfAny? : List Pattern → Option Nat
  | [] => none
  | [p] => p.minLength?
  | p :: ps =>
    match p.minLength?, minOfAny? ps with
    | some m, some n => some (min m n)
    | _, _ => none

end

mutual

/-- The greatest number of characters of a match, if there is a bound. -/
def maxLength? : Pattern → Option Nat
  | .empty => some 0
  | .literal word => some word.length
  | .set s => if s.isEmpty then none else some 1
  | .look _ => some 0
  | .seq ps => maxOfAll? ps
  | .alt ps => maxOfAny? ps
  | .repetition p _ most =>
    match p.maxLength?, most with
    | some n, some most => some (n * most)
    | _, _ => none
  | .capture p => p.maxLength?

/-- The greatest number of characters of matches one after another. -/
def maxOfAll? : List Pattern → Option Nat
  | [] => some 0
  | p :: ps =>
    match p.maxLength?, maxOfAll? ps with
    | some m, some n => some (m + n)
    | _, _ => none

/-- The greatest number of characters of a match of one of the patterns. -/
def maxOfAny? : List Pattern → Option Nat
  | [] => none
  | [p] => p.maxLength?
  | p :: ps =>
    match p.maxLength?, maxOfAny? ps with
    | some m, some n => some (max m n)
    | _, _ => none

end

/-- Whether the pattern matches the empty text only. -/
def matchesEmptyOnly (p : Pattern) : Bool := p.maxLength? == some 0

end Pattern

end SqlDialect
