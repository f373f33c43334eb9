/-!
# Ranges of code points

A set of characters is given by closed ranges of code points. `Ranges.has` is the property that the
list stands for. The operations on sets keep the ranges in ascending order and make ranges that
touch one: `has_union` and `has_inter` say what they do to the property.

The code points 0xD800 to 0xDFFF are surrogates and no characters, so 0xE000 is the code point after
0xD7FF where sets are complemented.
-/

namespace SqlDialect.Text

/-- Closed ranges of code points. -/
abbrev Ranges := List (Nat × Nat)

namespace Ranges

/-- Whether a code point is in one of the ranges. -/
def hasCode (rs : Ranges) (n : Nat) : Bool :=
  rs.any fun (first, last) => decide (first ≤ n) && decide (n ≤ last)

/-- Whether a character is in one of the ranges. -/
def has (rs : Ranges) (c : Char) : Bool := rs.hasCode c.toNat

theorem hasCode_iff {rs : Ranges} {n : Nat} :
    rs.hasCode n = true ↔ ∃ r ∈ rs, r.1 ≤ n ∧ n ≤ r.2 := by
  simp [hasCode]

theorem has_iff {rs : Ranges} {c : Char} :
    rs.has c = true ↔ ∃ r ∈ rs, r.1 ≤ c.toNat ∧ c.toNat ≤ r.2 := hasCode_iff

@[simp] theorem hasCode_nil (n : Nat) : hasCode [] n = false := rfl

@[simp] theorem hasCode_cons (r : Nat × Nat) (rs : Ranges) (n : Nat) :
    hasCode (r :: rs) n = (decide (r.1 ≤ n) && decide (n ≤ r.2) || rs.hasCode n) := rfl

/-! ## Sets -/

/-- The greatest code point. -/
def lastCode : Nat := 0x10FFFF

/-- The set of all characters. -/
def full : Ranges := [(0, lastCode)]

/-- The set of one code point. -/
def single (n : Nat) : Ranges := [(n, n)]

/-- Every second code point of each range. -/
def everySecond (rs : Ranges) : Ranges :=
  rs.flatMap fun (first, last) =>
    (List.range' first ((last - first) / 2 + 1) 2).map fun n => (n, n)

/-! ## Unions -/

/-- A range among others that are in ascending order, `rest` being what to do with those after
it. -/
def weave (r : Nat × Nat) (rest : Ranges → Ranges) : Ranges → Ranges
  | [] => r :: rest []
  | t :: ts => if r.1 ≤ t.1 then r :: rest (t :: ts) else t :: weave r rest ts

/-- The ranges of two ascending lists in ascending order. -/
def merge : Ranges → Ranges → Ranges
  | [], ts => ts
  | r :: rs, ts => weave r (merge rs) ts

/-- A range and those behind it, ranges that overlap or touch made one. -/
def joinFrom : Nat × Nat → Ranges → Ranges
  | r, [] => [r]
  | r, s :: rest =>
    if r.1 ≤ s.1 ∧ s.1 ≤ r.2 + 1 then joinFrom (r.1, max r.2 s.2) rest else r :: joinFrom s rest

/-- Ascending ranges with those that overlap or touch made one. -/
def join : Ranges → Ranges
  | [] => []
  | r :: rest => joinFrom r rest

/-- The code points that are in either set. -/
def union (rs ts : Ranges) : Ranges := join (merge rs ts)

/-- The union of several sets. -/
def unionAll (sets : List Ranges) : Ranges := sets.foldr union []

theorem hasCode_weave {r : Nat × Nat} {rest : Ranges → Ranges} {n : Nat} {b : Bool}
    (h : ∀ ts, (rest ts).hasCode n = (b || ts.hasCode n)) (ts : Ranges) :
    (weave r rest ts).hasCode n = (decide (r.1 ≤ n) && decide (n ≤ r.2) || (b || ts.hasCode n)) := by
  induction ts with
  | nil => simp [weave, h]
  | cons t ts ih =>
    simp only [weave]
    split
    · simp [h]
    · simp only [hasCode_cons, ih]
      ac_rfl

theorem hasCode_merge (rs ts : Ranges) (n : Nat) :
    (merge rs ts).hasCode n = (rs.hasCode n || ts.hasCode n) := by
  induction rs generalizing ts with
  | nil => simp [merge]
  | cons r rs ih => rw [merge, hasCode_weave (fun ts => ih ts), hasCode_cons, Bool.or_assoc]

theorem hasCode_joinFrom (r : Nat × Nat) (rest : Ranges) (n : Nat) :
    (joinFrom r rest).hasCode n = hasCode (r :: rest) n := by
  induction rest generalizing r with
  | nil => rfl
  | cons s rest ih =>
    simp only [joinFrom]
    split
    · next h =>
      rw [ih, hasCode_cons, hasCode_cons, hasCode_cons, ← Bool.or_assoc]
      congr 1
      rw [Bool.eq_iff_iff]
      simp only [Bool.and_eq_true, Bool.or_eq_true, decide_eq_true_eq]
      omega
    · simp only [hasCode_cons, ih]

theorem hasCode_join (rs : Ranges) (n : Nat) : (join rs).hasCode n = rs.hasCode n := by
  cases rs with
  | nil => rfl
  | cons r rest => exact hasCode_joinFrom r rest n

@[simp] theorem hasCode_union (rs ts : Ranges) (n : Nat) :
    (union rs ts).hasCode n = (rs.hasCode n || ts.hasCode n) := by
  rw [union, hasCode_join, hasCode_merge]

@[simp] theorem has_union (rs ts : Ranges) (c : Char) :
    (union rs ts).has c = (rs.has c || ts.has c) := hasCode_union rs ts c.toNat

/-! ## Intersections -/

/-- What two ranges have in common. -/
def overlap? (r s : Nat × Nat) : Option (Nat × Nat) :=
  if max r.1 s.1 ≤ min r.2 s.2 then some (max r.1 s.1, min r.2 s.2) else none

/-- The code points that are in both sets. -/
def inter (rs ts : Ranges) : Ranges := rs.flatMap fun r => ts.filterMap (overlap? r)

theorem overlap?_eq_some {r s t : Nat × Nat} :
    overlap? r s = some t ↔
      max r.1 s.1 ≤ min r.2 s.2 ∧ (max r.1 s.1, min r.2 s.2) = t := by
  simp [overlap?]

theorem hasCode_inter_iff {rs ts : Ranges} {n : Nat} :
    (inter rs ts).hasCode n = true ↔ rs.hasCode n = true ∧ ts.hasCode n = true := by
  simp only [hasCode_iff, inter, List.mem_flatMap, List.mem_filterMap, overlap?_eq_some]
  constructor
  · rintro ⟨u, ⟨r, hr, s, hs, _, rfl⟩, h1, h2⟩
    exact ⟨⟨r, hr, by omega⟩, ⟨s, hs, by omega⟩⟩
  · rintro ⟨⟨r, hr, h1, h2⟩, ⟨s, hs, h3, h4⟩⟩
    exact ⟨_, ⟨r, hr, s, hs, by omega, rfl⟩, by dsimp only; omega⟩

@[simp] theorem has_inter (rs ts : Ranges) (c : Char) :
    (inter rs ts).has c = (rs.has c && ts.has c) := by
  rw [Bool.eq_iff_iff, Bool.and_eq_true]
  exact hasCode_inter_iff

/-! ## Complements -/

/-- The code point after one, surrogates left out. -/
def after (n : Nat) : Nat := if n = 0xD7FF then 0xE000 else n + 1

/-- The code point before one, surrogates left out. -/
def before (n : Nat) : Nat := if n = 0xE000 then 0xD7FF else n - 1

/-- The ranges between ascending ranges, from a code point on. -/
def gapsFrom (first : Nat) : Ranges → Ranges
  | [] => if first ≤ lastCode then [(first, lastCode)] else []
  | r :: rs =>
    if first < r.1 then (first, before r.1) :: gapsFrom (after r.2) rs else gapsFrom (after r.2) rs

/-- The characters that are not in the set. -/
def compl (rs : Ranges) : Ranges := gapsFrom 0 rs

/-- The characters of the first set that are not in the second. -/
def diff (rs ts : Ranges) : Ranges := inter rs (compl ts)

/-- The characters that are in one of the two sets only. -/
def symmDiff (rs ts : Ranges) : Ranges := diff (union rs ts) (inter rs ts)

end Ranges

end SqlDialect.Text
