import SqlDialect.Db2.Pagination

/-!
# Windows of rows

The condition on row numbers is read back from its text: what it says of a row is decided by the
numerals in it (`Db2.RowRange.read?`, `Db2.Satisfies`). Its numbers stop at the largest one that fits
64 bits, but the numbers of rows stop sooner, so that a row satisfies the condition exactly if it is
behind the offset and within the limit, in exact arithmetic. So the windows of pages of one size are
disjoint, and each row is in the window of one page.
-/

namespace SqlDialect.Db2

/-! ## Reading conditions -/

/-- The number that a text of decimal digits stands for. -/
def numeral? (text : String) : Option Nat :=
  if text ≠ "" ∧ text.toList.all Char.isDigit then some (Nat.ofDigitChars 10 text.toList 0)
  else none

/-- The range of row numbers that a written condition asks for. -/
def RowRange.read? (condition : String) : Option RowRange :=
  match (condition.toList.splitOn ' ').map String.ofList with
  | ["between", first, "and", last] =>
    match numeral? first, numeral? last with
    | some first, some last => some ⟨first, some last⟩
    | _, _ => none
  | [">=", first] => (numeral? first).map fun first => ⟨first, none⟩
  | _ => none

/-- Whether a row number is within a range. -/
def RowRange.Keeps (r : RowRange) (row : Nat) : Prop :=
  r.first ≤ row ∧ ∀ last, r.last = some last → row ≤ last

/-- Whether a row number satisfies a written condition. -/
def Satisfies (row : Nat) (condition : String) : Prop :=
  ∃ range, RowRange.read? condition = some range ∧ range.Keeps row

theorem isDigit_of_mem_toDigits {n : Nat} {c : Char} (h : c ∈ Nat.toDigits 10 n) :
    c.isDigit = true :=
  Nat.isDigit_of_mem_toDigits (by decide) (by decide) h

theorem blank_not_mem_toDigits (n : Nat) : ' ' ∉ Nat.toDigits 10 n := fun h =>
  absurd (isDigit_of_mem_toDigits h) (by decide)

theorem numeral?_repr (n : Nat) : numeral? n.repr = some n := by
  have hdigits : (Nat.toDigits 10 n).all Char.isDigit = true :=
    List.all_eq_true.2 fun _ => isDigit_of_mem_toDigits
  rw [numeral?, Nat.toList_repr, if_pos ⟨Nat.repr_ne_empty, hdigits⟩, Nat.ofDigitChars_ten_toDigits]

/-- Words with blanks between them are read one by one. -/
theorem splitOn_words {words : List String} (hwords : ∀ word ∈ words, ' ' ∉ word.toList)
    (hne : words ≠ []) :
    ((" ".intercalate words).toList.splitOn ' ').map String.ofList = words := by
  have hblank : (" " : String).toList = [' '] := rfl
  rw [String.toList_intercalate, hblank, List.splitOn_intercalate _ _ (by simpa using hne)]
  · simp [List.map_map, Function.comp_def]
  · intro text htext
    obtain ⟨word, hword, rfl⟩ := List.mem_map.1 htext
    exact hwords word hword

/-- **A written range is read back.** -/
theorem RowRange.read?_text (r : RowRange) : RowRange.read? r.text = some r := by
  obtain ⟨first, last⟩ := r
  cases last with
  | none =>
    have htext : (RowRange.mk first none).text = " ".intercalate [">=", first.repr] := by
      simp [RowRange.text, String.intercalate_cons_cons]
    rw [read?, htext, splitOn_words (by simp [blank_not_mem_toDigits]) (List.cons_ne_nil _ _)]
    simp [numeral?_repr]
  | some last =>
    have htext : (RowRange.mk first (some last)).text =
        " ".intercalate ["between", first.repr, "and", last.repr] := by
      simp [RowRange.text, String.intercalate_cons_cons, ← String.toList_inj]
    rw [read?, htext, splitOn_words (by simp [blank_not_mem_toDigits]) (List.cons_ne_nil _ _)]
    simp [numeral?_repr]

/-! ## Rows and pages -/

/-- The largest row number, 2 ^ 63 - 1: rows are numbered in 64 bits, one of them for the sign. -/
def lastRow : Nat := 9223372036854775807

theorem satisfies_text_iff {row : Nat} {r : RowRange} : Satisfies row r.text ↔ r.Keeps row := by
  simp only [Satisfies, RowRange.read?_text, Option.some.injEq, exists_eq_left']

/-- Where rows are numbered, a range stops nowhere. -/
theorem keeps_of_iff {row : Nat} (hrow : row ≤ lastRow) (offset : UInt64) (limit : Option UInt64) :
    (RowRange.of offset limit).Keeps row ↔ offset.toNat < row ∧
      ∀ rows, limit = some rows → 0 < rows → row ≤ offset.toNat + rows.toNat := by
  -- The largest number that fits is behind every row.
  have hlimit : row < rowLimit := Nat.lt_of_le_of_lt hrow (by decide)
  have hfirst : min (offset.toNat + 1) rowLimit ≤ row ↔ offset.toNat < row := by omega
  have hlast : ∀ last, row ≤ min last rowLimit ↔ row ≤ last := by omega
  simp only [RowRange.Keeps, RowRange.of, hfirst]
  refine and_congr_right fun _ => ?_
  cases limit with
  | none => simp
  | some rows => by_cases hrows : 0 < rows <;> simp [hrows, hlast]

theorem page_eq_iff {row size k : Nat} (hrow : 1 ≤ row) (hsize : 0 < size) :
    k = (row - 1) / size ↔ k * size < row ∧ row ≤ k * size + size := by
  rw [eq_comm, Nat.div_eq_iff hsize]
  omega

/-- A row is in the window of just the page that it is counted to. -/
theorem satisfies_page_iff {row : Nat} (hfirst : 1 ≤ row) (hlast : row ≤ lastRow) {size : UInt64}
    (hsize : 0 < size) {k : Nat} {offset : UInt64} (hoffset : offset.toNat = k * size.toNat) :
    Satisfies row (RowRange.of offset (some size)).text ↔ k = (row - 1) / size.toNat := by
  rw [satisfies_text_iff, keeps_of_iff hlast, page_eq_iff hfirst (UInt64.lt_iff_toNat_lt.1 hsize),
    hoffset]
  simp [hsize]

theorem exists_page {row : Nat} (hlast : row ≤ lastRow) (size : UInt64) :
    ∃ offset : UInt64, offset.toNat = (row - 1) / size.toNat * size.toNat := by
  have hle : (row - 1) / size.toNat * size.toNat ≤ row - 1 := Nat.div_mul_le_self _ _
  have hfits : (row - 1) / size.toNat * size.toNat < UInt64.size := by
    have hrow : lastRow < UInt64.size := by decide
    omega
  exact ⟨.ofNat _, UInt64.toNat_ofNat_of_lt' hfits⟩

/-- **Rows behind an offset and within a limit.** The condition on row numbers is read as a range, and
a row satisfies it exactly if it is behind the offset and, with a limit of some rows, no further
behind than that. So for each size of pages, a row is in the window of the page that it is counted
to, and in no other; the windows of two pages have no row in common. -/
theorem satisfies_rowRange_iff {row : Nat} (hfirst : 1 ≤ row) (hlast : row ≤ lastRow) :
    (∀ (offset : UInt64) (limit : Option UInt64),
      RowRange.read? (RowRange.of offset limit).text = some (RowRange.of offset limit) ∧
      (Satisfies row (RowRange.of offset limit).text ↔ offset.toNat < row ∧
        ∀ rows, limit = some rows → 0 < rows → row ≤ offset.toNat + rows.toNat)) ∧
    ∀ size : UInt64, 0 < size →
      (∃ offset : UInt64, offset.toNat = (row - 1) / size.toNat * size.toNat ∧
        Satisfies row (RowRange.of offset (some size)).text) ∧
      (∀ (k : Nat) (offset : UInt64), offset.toNat = k * size.toNat →
        (Satisfies row (RowRange.of offset (some size)).text ↔ k = (row - 1) / size.toNat)) ∧
      ∀ (k k' : Nat) (offset offset' : UInt64), offset.toNat = k * size.toNat →
        offset'.toNat = k' * size.toNat → k ≠ k' →
        ¬ (Satisfies row (RowRange.of offset (some size)).text ∧
          Satisfies row (RowRange.of offset' (some size)).text) := by
  refine ⟨fun offset limit => ⟨RowRange.read?_text _, ?_⟩, fun size hsize => ⟨?_, ?_, ?_⟩⟩
  · rw [satisfies_text_iff, keeps_of_iff hlast]
  · obtain ⟨offset, hoffset⟩ := exists_page hlast size
    exact ⟨offset, hoffset, (satisfies_page_iff hfirst hlast hsize hoffset).2 rfl⟩
  · intro k offset hoffset
    exact satisfies_page_iff hfirst hlast hsize hoffset
  · rintro k k' offset offset' hoffset hoffset' hne ⟨hpage, hpage'⟩
    rw [satisfies_page_iff hfirst hlast hsize hoffset] at hpage
    rw [satisfies_page_iff hfirst hlast hsize hoffset'] at hpage'
    exact hne (hpage.trans hpage'.symm)

theorem satisfies_rowRange_iff_lastRow :
    1 ≤ lastRow ∧ lastRow ≤ lastRow ∧ (0 : UInt64) < 10 ∧
    Satisfies lastRow (RowRange.of 9223372036854775800 (some 10)).text ∧
    ¬ Satisfies lastRow (RowRange.of 9223372036854775790 (some 10)).text ∧
    ¬ Satisfies lastRow (RowRange.of 18446744073709551615 (some 5)).text ∧
    Satisfies lastRow (RowRange.of 9223372036854775806 (some 18446744073709551615)).text ∧
    Satisfies lastRow (RowRange.of 3 (some 0)).text := by
  have hwindow := @satisfies_rowRange_iff lastRow (by decide) (by decide)
  obtain ⟨-, hpage, -⟩ := hwindow.2 10 (by decide)
  refine ⟨by decide, by decide, by decide, ?_, ?_, ?_, ?_, ?_⟩
  · exact (hpage 922337203685477580 9223372036854775800 rfl).2 (by decide)
  · exact mt (hpage 922337203685477579 9223372036854775790 rfl).1 (by decide)
  · exact fun hlast => absurd ((hwindow.1 18446744073709551615 (some 5)).2.1 hlast).1 (by decide)
  · refine (hwindow.1 9223372036854775806 (some 18446744073709551615)).2.2 ⟨by decide, ?_⟩
    rintro rows ⟨⟩ -
    decide
  · refine (hwindow.1 3 (some 0)).2.2 ⟨by decide, ?_⟩
    rintro rows ⟨⟩ hrows
    exact absurd hrows (by decide)

end SqlDialect.Db2
