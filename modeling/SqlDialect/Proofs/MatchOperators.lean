import SqlDialect.Db2.Dialect
import SqlDialect.Proofs.Unmarked

/-!
# Operators that match a pattern

A comparison is a match in upper case if its operator is `LIKE` or `NOT LIKE`. The operator is put
into upper case for this question, and not only its ASCII letters: a dotless i becomes an `I` too.
No other character beyond ASCII becomes a letter of the two words
(`Text.exists_isTrace_upperChar`), so the operators that are taken for one of them are those that spell
it with any case of the letters, any blanks around them, and any of the two i's
(`Db2.likeOperator?_eq_some_iff`).

Every other operator is written as it is given. What is written for the two words differs from the
plain comparison unless both sides are raw and the operator is written as the word already
(`Db2.Connection.matches_exactly`).
-/

namespace SqlDialect

/-! ## Upper case beyond ASCII -/

namespace Text

/-- The upper case of a code point is read off a run, listed, or the code point itself. -/
theorem upperCodes_cases (n : Nat) :
    (∃ r ∈ upperRuns, r.has n = true ∧ upperCodes n = [r.target + (n - r.first)]) ∨
    (∃ text ∈ upperTexts, upperCodes n = text.2) ∨ upperCodes n = [n] := by
  unfold upperCodes
  split
  · next r hr =>
    have hhas : r.has n = true := @List.find?_some _ (fun r : FoldRun => r.has n) _ _ hr
    exact .inl ⟨r, List.mem_of_find?_eq_some hr, hhas, rfl⟩
  · split
    · next text htext => exact .inr (.inl ⟨text, List.mem_of_find?_eq_some htext, rfl⟩)
    · exact .inr (.inr rfl)

/-- A character that gives away that something beyond ASCII was put into upper case: it is beyond
ASCII itself, or an `F` or an `S`, as in the upper case of ligatures and of the long s. -/
def isTrace (c : Char) : Bool := 128 ≤ c.toNat || c == 'F' || c == 'S'

/-- Beyond ASCII, only a dotless i has an upper case that does not give it away. -/
theorem exists_isTrace_upperChar {c : Char} (hc : 128 ≤ c.toNat) (hdot : c ≠ 'ı') :
    ∃ d ∈ upperChar c, isTrace d = true := by
  have hruns : ∀ r ∈ upperRuns, r.last < 128 ∨ r = ⟨0x131, 0x131, 1, 0x49⟩ ∨
      r = ⟨0x17F, 0x17F, 1, 0x53⟩ ∨ 128 ≤ r.target ∧
        (r.target + (r.last - r.first) < 0xD800 ∨
          0xDFFF < r.target ∧ r.target + (r.last - r.first) < 0x110000) := by
    decide +kernel
  have htexts : ∀ text ∈ upperTexts, (text.2.map Char.ofNat).any isTrace = true := by
    decide +kernel
  have hfar : ∀ {d : Char}, 128 ≤ d.toNat → isTrace d = true := by
    intro d hd
    simp [isTrace, hd]
  obtain ⟨r, hr, hhas, hcodes⟩ | ⟨text, htext, hcodes⟩ | hcodes := upperCodes_cases c.toNat
  · simp only [FoldRun.has, Bool.and_eq_true, decide_eq_true_eq] at hhas
    obtain ⟨⟨hfirst, hlast⟩, -⟩ := hhas
    obtain hascii | rfl | rfl | ⟨htarget, hvalid⟩ := hruns r hr
    · omega
    · have hcode : c.toNat = 'ı'.toNat := Nat.le_antisymm hlast hfirst
      exact absurd (Char.toNat_inj.1 hcode) hdot
    · have hcode : c.toNat = 0x17F := Nat.le_antisymm hlast hfirst
      refine ⟨'S', ?_, rfl⟩
      rw [upperChar, hcodes, hcode]
      exact List.mem_cons_self
    · refine ⟨Char.ofNat (r.target + (c.toNat - r.first)), by simp [upperChar, hcodes], hfar ?_⟩
      have hscalar : (r.target + (c.toNat - r.first)).isValidChar := by
        unfold Nat.isValidChar
        omega
      rw [Char.ofNat, dif_pos hscalar]
      show 128 ≤ r.target + (c.toNat - r.first)
      omega
  · rw [upperChar, hcodes]
    exact List.any_eq_true.1 (htexts text htext)
  · exact ⟨c, by simp [upperChar, hcodes], hfar hc⟩

/-- An i with its dot in place of one without. -/
def dotted (c : Char) : Char := if c = 'ı' then 'i' else c

/-- In ASCII, the small letters have an upper case of their own. -/
theorem upperCodes_of_lt {n : Nat} (hn : n < 128) :
    upperCodes n = [if 0x61 ≤ n ∧ n ≤ 0x7A then n - 32 else n] := by
  have hsplit : upperRuns = ⟨0x61, 0x7A, 1, 0x41⟩ :: upperRuns.tail := rfl
  have hruns : ∀ r ∈ upperRuns.tail, 128 ≤ r.first := by decide +kernel
  have htexts : ∀ text ∈ upperTexts, 128 ≤ text.1 := by decide +kernel
  have hnorun : upperRuns.tail.find? (fun r => r.has n) = none := by
    refine List.find?_eq_none.2 fun r hr hhas => ?_
    have hfirst := hruns r hr
    simp only [FoldRun.has, Bool.and_eq_true, decide_eq_true_eq] at hhas
    omega
  have hnotext : upperTexts.find? (fun text => text.1 == n) = none := by
    refine List.find?_eq_none.2 fun text htext heq => ?_
    have hfirst := htexts text htext
    rw [eq_of_beq heq] at hfirst
    omega
  unfold upperCodes
  rw [hsplit, List.find?_cons, hnorun, hnotext]
  by_cases hsmall : 0x61 ≤ n ∧ n ≤ 0x7A
  · have hhas : FoldRun.has ⟨0x61, 0x7A, 1, 0x41⟩ n = true := by
      simp [FoldRun.has, hsmall, Nat.mod_one]
    simp only [hhas, hsmall, and_self, if_true]
    congr 1
    omega
  · have hhas : FoldRun.has ⟨0x61, 0x7A, 1, 0x41⟩ n = false := by
      simp only [FoldRun.has, Bool.and_eq_false_iff, decide_eq_false_iff_not]
      omega
    simp only [hhas, hsmall, if_false]

theorem upperChar_eq {c : Char} (h : c.toNat < 128 ∨ c = 'ı') :
    upperChar c = [(dotted c).toUpper] := by
  have hletters : ∀ n < 128, Char.ofNat (if 0x61 ≤ n ∧ n ≤ 0x7A then n - 32 else n) =
      (dotted (Char.ofNat n)).toUpper := by
    decide +kernel
  obtain hc | rfl := h
  · rw [upperChar, upperCodes_of_lt hc, List.map_singleton, hletters _ hc, Char.ofNat_toNat]
  · decide

theorem toUpper_of_le {c : Char} (hc : 128 ≤ c.toNat) : c.toUpper = c := by
  refine dif_neg fun h => ?_
  have hz : c.toNat ≤ 122 := h.2
  omega

/-- A text is in upper case a word that gives nothing away, if it is so with the upper case of ASCII
and with its dotless i's dotted. -/
theorem upper_eq_iff {text word : List Char} (hword : word.any isTrace = false) :
    upper text = word ↔ text.map (fun c => (dotted c).toUpper) = word := by
  have hletters (h : ∀ c ∈ text, 128 ≤ c.toNat → c = 'ı') :
      upper text = text.map fun c => (dotted c).toUpper := by
    rw [upper, List.map_eq_flatMap, List.flatMap_def, List.flatMap_def]
    refine congrArg List.flatten (List.map_congr_left fun c hc => upperChar_eq ?_)
    exact (Nat.lt_or_ge c.toNat 128).imp_right (h c hc)
  constructor
  · intro hupper
    rw [← hletters fun c hc hfar => ?_, hupper]
    apply Decidable.byContradiction
    intro hdot
    obtain ⟨d, hd, htrace⟩ := exists_isTrace_upperChar hfar hdot
    have hmem : d ∈ upper text := List.mem_flatMap.2 ⟨c, hc, hd⟩
    exact List.any_eq_false.1 hword d (hupper ▸ hmem) htrace
  · intro hmap
    rw [hletters fun c hc hfar => ?_, hmap]
    apply Decidable.byContradiction
    intro hdot
    have hmem : (dotted c).toUpper ∈ text.map fun c => (dotted c).toUpper :=
      List.mem_map_of_mem hc
    rw [hmap, dotted, if_neg hdot, toUpper_of_le hfar] at hmem
    exact List.any_eq_false.1 hword c hmem (by simp [isTrace, hfar])

theorem mem_trim_of_mem {c : Char} {text : List Char} (h : c ∈ text) (hc : isBlank c = false) :
    c ∈ trim text := by
  have hstart : ∀ text : List Char, c ∈ text → c ∈ trimStart text := by
    intro text hmem
    rw [← List.takeWhile_append_dropWhile (p := isBlank) (l := text), List.mem_append] at hmem
    refine hmem.resolve_left fun hfront => ?_
    have hblank : isBlank c = true := List.all_eq_true.1 List.all_takeWhile c hfront
    rw [hblank] at hc
    cases hc
  exact List.mem_reverse.2 (hstart _ (List.mem_reverse.2 (hstart _ h)))

end Text

namespace Db2

open Text

/-! ## The two operators -/

/-- The operator of a match as it is written. -/
def likeWord (negated : Bool) : String := if negated then "NOT LIKE" else "LIKE"

/-- The operator is the word of a match, up to the case of ASCII letters and the blanks around
it. -/
def Spells (operator : String) (negated : Bool) : Prop :=
  (trim operator.toList).map Char.toUpper = (likeWord negated).toList

/-- The operator is the word of a match once its dotless i's have their dots, up to the case of
ASCII letters and the blanks around it. -/
def Resembles (operator : String) (negated : Bool) : Prop :=
  (trim operator.toList).map (fun c => (dotted c).toUpper) = (likeWord negated).toList

instance (operator : String) (negated : Bool) : Decidable (Spells operator negated) :=
  inferInstanceAs (Decidable ((trim operator.toList).map Char.toUpper = _))

instance (operator : String) (negated : Bool) : Decidable (Resembles operator negated) :=
  inferInstanceAs (Decidable ((trim operator.toList).map (fun c => (dotted c).toUpper) = _))

variable {operator : String} {negated : Bool}

/-- Without a dotless i, an operator resembles a word if it spells it. -/
theorem spells_iff :
    Spells operator negated ↔ Resembles operator negated ∧ 'ı' ∉ operator.toList := by
  have hdots (h : 'ı' ∉ trim operator.toList) :
      (trim operator.toList).map (fun c => (dotted c).toUpper) =
        (trim operator.toList).map Char.toUpper := by
    refine List.map_congr_left fun c hc => ?_
    have hne : c ≠ 'ı' := fun hdot => h (hdot ▸ hc)
    rw [dotted, if_neg hne]
  constructor
  · intro h
    have hword : 'ı' ∉ (likeWord negated).toList := by
      cases negated <;> decide
    have htrim : 'ı' ∉ trim operator.toList := by
      intro hmem
      have hupper : Char.toUpper 'ı' ∈ (likeWord negated).toList :=
        h ▸ List.mem_map_of_mem hmem
      exact hword hupper
    exact ⟨(hdots htrim).trans h, fun hmem => htrim (mem_trim_of_mem hmem (by decide))⟩
  · rintro ⟨h, hnone⟩
    exact (hdots fun hmem => hnone (mem_of_mem_trim hmem)).symm.trans h

/-- **The operators that are taken for one of the two** are those that resemble it. -/
theorem likeOperator?_eq_some_iff {like : String} :
    likeOperator? operator = some like ↔
      ∃ negated, Resembles operator negated ∧ like = likeWord negated := by
  have hword : ∀ negated, (likeWord negated).toList.any isTrace = false := by
    decide
  have hupper : ∀ negated, upper (trim operator.toList) = (likeWord negated).toList ↔
      Resembles operator negated := fun negated => upper_eq_iff (hword negated)
  have hlike := hupper false
  have hnotLike := hupper true
  simp only [likeWord, Bool.false_eq_true, if_false, if_true] at hlike hnotLike
  unfold likeOperator?
  constructor
  · intro h
    simp only at h
    split at h
    · next hchars => exact ⟨false, hlike.1 hchars, (Option.some.inj h).symm⟩
    · split at h
      · next hchars => exact ⟨true, hnotLike.1 hchars, (Option.some.inj h).symm⟩
      · cases h
  · rintro ⟨negated, h, rfl⟩
    cases negated with
    | false => exact if_pos (hlike.2 h)
    | true =>
      have hchars := hnotLike.2 h
      simp [hchars, likeWord]

theorem likeOperator?_eq_none_iff :
    likeOperator? operator = none ↔ ∀ negated, ¬ Resembles operator negated := by
  rw [Option.eq_none_iff_forall_ne_some]
  constructor
  · intro h negated hres
    exact h _ (likeOperator?_eq_some_iff.2 ⟨negated, hres, rfl⟩)
  · intro h like hlike
    obtain ⟨negated, hres, -⟩ := likeOperator?_eq_some_iff.1 hlike
    exact h negated hres

/-! ## What is written -/

/-- A text that begins with itself in parentheses behind a name does not go on with a blank. -/
theorem enclosed_ne_append_blank {front : List Char} (hfront : front ≠ []) (hblank : ' ' ∉ front)
    (text rest rest' : List Char) : front ++ (text ++ rest) ≠ text ++ ' ' :: rest' := by
  induction hn : text.length using Nat.strongRecOn generalizing text with
  | ind n ih =>
    intro heq
    obtain ⟨behind, rfl, hrest⟩ | ⟨behind, rfl, hrest⟩ := List.append_eq_append_iff.1 heq
    · -- The text begins with the name itself, and what follows it is shorter.
      have hpos := List.length_pos_iff.2 hfront
      rw [List.length_append] at hn
      rw [List.append_assoc] at hrest
      exact ih behind.length (by omega) behind rfl hrest
    · cases behind with
      | nil =>
        rw [List.append_nil] at hfront hblank
        cases text with
        | nil => exact hfront rfl
        | cons d text =>
          simp only [List.nil_append, List.cons_append, List.cons.injEq] at hrest
          exact hblank (hrest.1 ▸ List.mem_cons_self)
      | cons d behind =>
        simp only [List.cons_append, List.cons.injEq] at hrest
        exact hblank (hrest.1 ▸ List.mem_append_right text List.mem_cons_self)

namespace Connection

variable (c : Connection) (column : Column) (operand : Operand)

/-- What is written for a match is the plain comparison only between raw texts and with the operator
as it is written. -/
theorem match_eq_comparison_iff {like : String} :
    upperColumn c.spelling c.castPolicy column ++ " " ++ like ++ " " ++
        upperOperand c.spelling operand = c.spelling.comparison column operator operand ↔
      operator = like ∧ ∃ left right, column = .raw left ∧ operand = .raw right := by
  constructor
  · intro heq
    cases column with
    | named name =>
      exfalso
      have hchars := congrArg String.toList heq
      simp only [upperColumn, Spelling.comparison, Spelling.column] at hchars
      split at hchars <;> simp only [String.append_assoc, String.toList_append] at hchars
      · exact enclosed_ne_append_blank (by decide) (by decide) _ _ _ hchars
      · exact enclosed_ne_append_blank (by decide) (by decide) _ _ _ hchars
    | raw left =>
      cases operand with
      | literal value =>
        have hlast := congrArg (fun text => text.toList.getLast?) heq
        simp [upperOperand, Spelling.comparison, spelling, Spelling.questionMark,
          List.getLast?_cons] at hlast
      | raw right =>
        refine ⟨?_, left, right, rfl, rfl⟩
        simpa [upperColumn, upperOperand, Spelling.comparison, Spelling.column, spelling,
          Spelling.questionMark, eq_comm] using heq
  · rintro ⟨rfl, left, right, rfl, rfl⟩
    rfl

variable {c column operand}

theorem predicate_of_resembles (h : Resembles operator negated) :
    c.dialect.predicate (.compare column operator operand) =
      upperColumn c.spelling c.castPolicy column ++ " " ++ likeWord negated ++ " " ++
        upperOperand c.spelling operand := by
  have hlike := likeOperator?_eq_some_iff.2 ⟨negated, h, rfl⟩
  simp only [Dialect.predicate, dialect, compare, hlike]

theorem predicate_of_not_resembles (h : ∀ negated, ¬ Resembles operator negated) :
    c.dialect.predicate (.compare column operator operand) =
      c.spelling.comparison column operator operand := by
  have hnone := likeOperator?_eq_none_iff.2 h
  simp only [Dialect.predicate, dialect, compare, hnone]

variable (c column operand)

/-- **Which operators are written as matches.** Those that resemble one of the two words are written
as this word between the sides in upper case, all of them alike, and every other operator is written
as it is given, with the sides as they are. So the text departs from the plain comparison exactly
for the operators that resemble a word, raw texts with the word itself between them apart. Without a
dotless i, these are the operators that spell a word up to the case of ASCII letters and the blanks
around it. -/
theorem matches_exactly (operator : String) :
    (∀ negated, Resembles operator negated →
      c.dialect.predicate (.compare column operator operand) =
        upperColumn c.spelling c.castPolicy column ++ " " ++ likeWord negated ++ " " ++
          upperOperand c.spelling operand ∧
      ∀ other, Resembles other negated →
        c.dialect.predicate (.compare column operator operand) =
          c.dialect.predicate (.compare column other operand)) ∧
    ((∀ negated, ¬ Resembles operator negated) →
      c.dialect.predicate (.compare column operator operand) =
        c.spelling.column column ++ " " ++ operator ++ " " ++ c.spelling.operand operand) ∧
    (c.dialect.predicate (.compare column operator operand) ≠
        c.dialect.standardPredicate (.compare column operator operand) ↔
      ∃ negated, Resembles operator negated ∧
        ¬ (operator = likeWord negated ∧
          ∃ left right, column = .raw left ∧ operand = .raw right)) ∧
    ∀ negated, Spells operator negated ↔ Resembles operator negated ∧ 'ı' ∉ operator.toList := by
  have hstandard : c.dialect.standardPredicate (.compare column operator operand) =
      c.spelling.comparison column operator operand := rfl
  refine ⟨fun negated h => ⟨predicate_of_resembles h, fun other hother => ?_⟩,
    predicate_of_not_resembles, ?_, fun negated => spells_iff⟩
  · rw [predicate_of_resembles h, predicate_of_resembles hother]
  · rw [hstandard]
    constructor
    · intro hne
      have hsome : ∃ negated, Resembles operator negated := by
        apply Decidable.byContradiction
        intro hnone
        exact hne (predicate_of_not_resembles (not_exists.1 hnone))
      obtain ⟨negated, h⟩ := hsome
      rw [predicate_of_resembles h, Ne, match_eq_comparison_iff] at hne
      exact ⟨negated, h, hne⟩
    · rintro ⟨negated, h, hne⟩
      rw [predicate_of_resembles h, Ne, match_eq_comparison_iff]
      exact hne

/-- Blanks of several kinds around a word in mixed case. -/
theorem matches_exactly_notLike :
    Resembles "\tNot lIKE\u2003" true ∧ (∀ negated, ¬ Resembles "like binary" negated) ∧
    ({} : Connection).dialect.predicate
        (.compare (.raw "name") "\tNot lIKE\u2003" (.literal (.text "a%"))) =
      "name NOT LIKE UPPER(?)" ∧
    ({} : Connection).dialect.predicate
        (.compare (.raw "name") "like binary" (.literal (.text "a%"))) =
      "name like binary ?" := by
  have hword : Resembles "\tNot lIKE\u2003" true := by decide
  have hother : ∀ negated, ¬ Resembles "like binary" negated := by decide
  refine ⟨hword, hother, ?_, ?_⟩
  · rw [((matches_exactly {} (.raw "name") (.literal (.text "a%")) _).1 true hword).1]
    decide
  · rw [(matches_exactly {} (.raw "name") (.literal (.text "a%")) _).2.1 hother]
    decide

/-- A dotless i is another letter than an i in any case of ASCII, and yet an operator with one in
place of the other is written as a match. -/
theorem matches_dotless :
    (∀ negated, ¬ Spells "lıke" negated) ∧
    ({} : Connection).dialect.standardPredicate
        (.compare (.named "name") "lıke" (.literal (.text "a%"))) = "\"name\" lıke ?" ∧
    ({} : Connection).dialect.predicate
        (.compare (.named "name") "lıke" (.literal (.text "a%"))) =
      "UPPER(\"name\") LIKE UPPER(?)" := by
  have hdotless : Resembles "lıke" false := by decide
  refine ⟨by decide, by decide +kernel, ?_⟩
  rw [predicate_of_resembles hdotless]
  decide +kernel

end Connection

end Db2

end SqlDialect
