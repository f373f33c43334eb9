import SqlDialect.Proofs.Patterns.Marks

/-!
# What a search finds

Whether a pattern matches the part of a text between two places is said without regard to how it is
searched for (`Pattern.Spans`): patterns one after another match parts one after another, and a
repetition matches any number of parts within its bounds. A search finds a pattern exactly if it
matches some part of the text (`Pattern.isIn_iff`).
-/

namespace SqlDialect.Pattern

/-! ## Matches between places -/

mutual

/-- Whether a pattern matches the part of a text between two places. -/
def Spans (text : List Char) : Pattern → Nat → Nat → Prop
  | .empty, i, j => i = j
  | .literal word, i, j => word <+: text.drop i ∧ j = i + word.length
  | .set s, i, j => (∃ c, text[i]? = some c ∧ s.has c = true) ∧ j = i + 1
  | .look l, i, j => i = j ∧ l.holds (charBefore text i) text[i]? = true
  | .seq ps, i, j => SpansAll text ps i j
  | .alt ps, i, j => SpansAny text ps i j
  | .repetition p least most, i, j =>
    ∃ more, (∀ bound, most = some bound → more ≤ bound - least) ∧
      InSteps (Spans text p) (least + more) i j
  | .capture p, i, j => Spans text p i j

/-- Whether patterns, one after another, match the part of a text between two places. -/
def SpansAll (text : List Char) : List Pattern → Nat → Nat → Prop
  | [], i, j => i = j
  | p :: ps, i, j => ∃ k, Spans text p i k ∧ SpansAll text ps k j

/-- Whether one of the patterns matches the part of a text between two places. -/
def SpansAny (text : List Char) : List Pattern → Nat → Nat → Prop
  | [], _, _ => False
  | p :: ps, i, j => Spans text p i j ∨ SpansAny text ps i j

end

theorem spansAny_iff {text : List Char} {ps : List Pattern} {i j : Nat} :
    SpansAny text ps i j ↔ ∃ p ∈ ps, Spans text p i j := by
  induction ps with
  | nil => simp [SpansAny]
  | cons p ps ih => simp [SpansAny, ih]

/-! ## Searching -/

mutual

theorem moves_advance (text : List Char) (p : Pattern) :
    Moves (text.length + 1) (p.advance text) (Spans text p) := by
  cases p with
  | empty => exact Moves.stay
  | literal word => exact Moves.literal text word
  | set s => exact Moves.past text s.has
  | look l => exact Moves.look text l
  | seq ps => exact moves_advanceAll text ps
  | alt ps => exact moves_advanceAny text ps
  | repetition p least most => exact (moves_advance text p).repetition least most
  | capture p => exact moves_advance text p

theorem moves_advanceAll (text : List Char) (ps : List Pattern) :
    Moves (text.length + 1) (advanceAll text ps) (SpansAll text ps) := by
  cases ps with
  | nil => exact Moves.stay
  | cons p ps => exact (moves_advance text p).comp (moves_advanceAll text ps)

theorem moves_advanceAny (text : List Char) (ps : List Pattern) :
    Moves (text.length + 1) (advanceAny text ps) (SpansAny text ps) := by
  cases ps with
  | nil => exact Moves.nowhere
  | cons p ps => exact (moves_advance text p).either (moves_advanceAny text ps)

end

/-- **A search finds a pattern exactly if the pattern matches some part of the text**, wherever it
begins and wherever it ends. -/
theorem isIn_iff {p : Pattern} {text : String} :
    p.isIn text = true ↔ ∃ i j, i ≤ text.toList.length ∧ Spans text.toList p i j := by
  have hlength : (List.replicate (text.toList.length + 1) true).length = text.toList.length + 1 :=
    List.length_replicate
  have hstart : ∀ {i}, Marked (List.replicate (text.toList.length + 1) true) i ↔
      i ≤ text.toList.length := by
    intro i
    rw [Marked, List.getElem?_replicate, Option.ite_none_right_eq_some, and_iff_left rfl,
      Nat.lt_succ_iff]
  rw [isIn, ← String.length_toList, List.any_eq_true]
  simp only [id, exists_eq_right, List.mem_iff_getElem?]
  constructor
  · rintro ⟨j, hj⟩
    obtain ⟨i, hi, hspans⟩ := ((moves_advance text.toList p).marked_iff hlength).1 hj
    exact ⟨i, j, hstart.1 hi, hspans⟩
  · rintro ⟨i, j, hi, hspans⟩
    exact ⟨j, ((moves_advance text.toList p).marked_iff hlength).2 ⟨i, hstart.2 hi, hspans⟩⟩

end SqlDialect.Pattern
