import SqlDialect.Pattern.Basic

/-!
# Building patterns

Patterns are put together in a simple form: sequences and alternatives are not nested in their own
kind, literals beside each other are one, a choice of characters is a set, what all alternatives
begin with stands before them, and no repetition has one round or none. `ofSet`, `repeated`,
`concat` and `choice` build patterns in this form from parts in this form; `advance_concat` says
that a sequence matches what its parts match one after another.
-/

namespace SqlDialect.Pattern

open Text

/-- One character of a set; a literal if the set has one character only. -/
def ofSet (s : Ranges) : Pattern :=
  match s with
  | [(first, last)] => if first = last then .literal [Char.ofNat first] else .set s
  | _ => .set s

/-- Rounds of a pattern. What matches the empty text only does so in one round as in many. -/
def repeated (p : Pattern) (least : Nat) (most : Option Nat) : Pattern :=
  if p.matchesEmptyOnly then within (min least 1) (some (min (most.getD 1) 1))
  else within least most
where
  /-- Rounds between bounds; none at all and just one are no repetition. -/
  within (least : Nat) (most : Option Nat) : Pattern :=
    if least = 0 ∧ most = some 0 then .empty
    else if least = 1 ∧ most = some 1 then p
    else .repetition p least most

/-! ## Sequences -/

/-- The parts of a pattern in a sequence. -/
def parts : Pattern → List Pattern
  | .empty => []
  | .seq ps => ps
  | p => [p]

/-- The parts with literals beside each other made one. -/
def joinLiterals : List Pattern → List Pattern
  | [] => []
  | .literal a :: ps =>
    match joinLiterals ps with
    | .literal b :: qs => .literal (a ++ b) :: qs
    | qs => .literal a :: qs
  | p :: ps => p :: joinLiterals ps

/-- Patterns one after another. -/
def concat (ps : List Pattern) : Pattern :=
  match joinLiterals (ps.flatMap parts) with
  | [] => .empty
  | [p] => p
  | qs => .seq qs

/-! ### What a sequence matches -/

theorem advanceAll_append (text : List Char) (ps qs : List Pattern) (marks : List Bool) :
    advanceAll text (ps ++ qs) marks = advanceAll text qs (advanceAll text ps marks) := by
  induction ps generalizing marks with
  | nil => rfl
  | cons p ps ih => exact ih (p.advance text marks)

theorem advanceAll_parts (text : List Char) (p : Pattern) (marks : List Bool) :
    advanceAll text p.parts marks = p.advance text marks := by
  cases p <;> rfl

theorem advanceAll_flatMap_parts (text : List Char) (ps : List Pattern) (marks : List Bool) :
    advanceAll text (ps.flatMap parts) marks = advanceAll text ps marks := by
  induction ps generalizing marks with
  | nil => rfl
  | cons p ps ih => rw [List.flatMap_cons, advanceAll_append, advanceAll_parts, ih]; rfl

theorem advanceAll_joinLiterals (text : List Char) (ps : List Pattern) (marks : List Bool) :
    advanceAll text (joinLiterals ps) marks = advanceAll text ps marks := by
  induction ps generalizing marks with
  | nil => rfl
  | cons p ps ih =>
    cases p with
    | literal a =>
      have h := ih (advance text (.literal a) marks)
      simp only [joinLiterals]
      split
      · next b qs hq =>
        rw [hq] at h
        simpa [advanceAll, advance, List.foldl_append] using h
      · exact h
    | _ => exact ih _

/-- Building a sequence does not change what is matched. -/
theorem advance_concat (text : List Char) (ps : List Pattern) (marks : List Bool) :
    (concat ps).advance text marks = advanceAll text ps marks := by
  have h : advanceAll text (joinLiterals (ps.flatMap parts)) marks = advanceAll text ps marks := by
    rw [advanceAll_joinLiterals, advanceAll_flatMap_parts]
  rw [← h, concat]
  split
  · next hq => rw [hq]; rfl
  · next p hq => rw [hq]; rfl
  · rfl

/-! ## Alternatives -/

/-- The branches of a pattern in a choice. -/
def branches : Pattern → List Pattern
  | .alt ps => ps
  | p => [p]

/-- The set of a literal of one character. -/
def characterSet? : Pattern → Option Ranges
  | .literal [c] => some (Ranges.single c.toNat)
  | _ => none

/-- The set of a pattern for one of several characters. -/
def set? : Pattern → Option Ranges
  | .set s => some s
  | _ => none

/-- A choice of branches. Single characters make a set, and so do sets. -/
def unite (ps : List Pattern) : Pattern :=
  match ps.flatMap branches with
  | [] => .set []
  | [p] => p
  | qs =>
    match qs.mapM characterSet? with
    | some sets => ofSet (Ranges.unionAll sets)
    | none =>
      match qs.mapM set? with
      | some sets => ofSet (Ranges.unionAll sets)
      | none => .alt qs

/-- The parts of a pattern that has several. -/
def seq? : Pattern → Option (List Pattern)
  | .seq ps => some ps
  | _ => none

mutual

/-- Whether there is a numbered group in the pattern. -/
def hasCapture : Pattern → Bool
  | .seq ps => anyHasCapture ps
  | .alt ps => anyHasCapture ps
  | .repetition p _ _ => p.hasCapture
  | .capture _ => true
  | _ => false

/-- Whether there is a numbered group in one of the patterns. -/
def anyHasCapture : List Pattern → Bool
  | [] => false
  | p :: ps => p.hasCapture || anyHasCapture ps

end

/-- How many parts two sequences have in common at their beginning. Numbered groups are never the
same, since they have different numbers. -/
def commonParts : List Pattern → List Pattern → Nat
  | p :: ps, q :: qs => if p = q ∧ !p.hasCapture then commonParts ps qs + 1 else 0
  | _, _ => 0

/-- A choice of branches. If all of them are sequences that begin with the same parts, these come
first and the choice is between what follows. -/
def choice (ps : List Pattern) : Pattern :=
  match (ps.flatMap branches).mapM seq? with
  | some (first :: second :: others) =>
    let rest := second :: others
    let common := rest.foldl (fun n parts => min n (commonParts first parts)) first.length
    if common = 0 then unite ps
    else
      concat (first.take common ++
        [unite ((first :: rest).map fun parts => concat (parts.drop common))])
  | _ => unite ps

end SqlDialect.Pattern
