import Mathlib.Tactic.SplitIfs
import SqlDialect.Json.Reader
import SqlDialect.Json.Text

/-!
# Strings in documents

How a string may be written in JSON: a character as itself, by a letter behind a backslash, or by
the hexadecimal digits of its unit of sixteen bits; a character above the basic plane by two units.
A written string is a list of such pieces (`Json.WrittenPieces`), and the text that it stands for
is told by the pieces (`Json.textOf?`). There is none if half of a pair of units stands alone.

However a text is written, it is what is read (`Json.string_eq_ok_iff`), and the library writes it
in one of these ways (`Json.exists_writtenPieces`).
-/

namespace SqlDialect.Json

open Text

/-! ## Written strings -/

/-- A piece of a written string. -/
inductive Piece
  | char (c : Char)
  /-- A unit of sixteen bits. -/
  | unit (n : Nat)

/-- The letters behind a backslash, with the characters that they stand for. -/
def shortEscapes : List (Char × Char) :=
  [('"', '"'), ('\\', '\\'), ('/', '/'), ('b', '\x08'), ('f', '\x0c'), ('n', '\n'), ('r', '\r'),
    ('t', '\t')]

/-- Whether a character is the hexadecimal digit of a number, in either case. -/
def IsHexDigit (c : Char) (n : Nat) : Prop :=
  n < 16 ∧ (c = hexDigit n ∨ c = (hexDigit n).toUpper)

/-- How a piece may be written. -/
inductive WrittenPiece : Piece → List Char → Prop
  | plain {c : Char} (hquote : c ≠ '"') (hbackslash : c ≠ '\\') (hcontrol : 0x20 ≤ c.toNat) :
    WrittenPiece (.char c) [c]
  | short {letter c : Char} (h : (letter, c) ∈ shortEscapes) :
    WrittenPiece (.char c) ['\\', letter]
  | code {a b c d : Char} {i j k l : Nat} (ha : IsHexDigit a i) (hb : IsHexDigit b j)
    (hc : IsHexDigit c k) (hd : IsHexDigit d l) :
    WrittenPiece (.unit (((i * 16 + j) * 16 + k) * 16 + l)) ['\\', 'u', a, b, c, d]

/-- How pieces may be written one after another. -/
inductive WrittenPieces : List Piece → List Char → Prop
  | nil : WrittenPieces [] []
  | cons {piece : Piece} {pieces : List Piece} {text rest : List Char}
    (h : WrittenPiece piece text) (hs : WrittenPieces pieces rest) :
    WrittenPieces (piece :: pieces) (text ++ rest)

/-- The first unit of a pair. -/
def IsHigh (n : Nat) : Prop := 0xD800 ≤ n ∧ n ≤ 0xDBFF

/-- The second unit of a pair. -/
def IsLow (n : Nat) : Prop := 0xDC00 ≤ n ∧ n ≤ 0xDFFF

instance (n : Nat) : Decidable (IsHigh n) := inferInstanceAs (Decidable (_ ∧ _))

instance (n : Nat) : Decidable (IsLow n) := inferInstanceAs (Decidable (_ ∧ _))

/-- The characters that pieces stand for. Units of a pair have to come together. -/
def textOf? : List Piece → Option (List Char)
  | [] => some []
  | .char c :: rest => (textOf? rest).map (c :: ·)
  | .unit n :: rest =>
    if IsLow n then none
    else if IsHigh n then
      match rest with
      | .unit m :: rest =>
        if IsLow m then
          (textOf? rest).map (Char.ofNat ((n - 0xD800) * 1024 + (m - 0xDC00) + 0x10000) :: ·)
        else none
      | _ => none
    else (textOf? rest).map (Char.ofNat n :: ·)

/-! ## Reading pieces -/

theorem hexValue?_of_isHexDigit {c : Char} {n : Nat} (h : IsHexDigit c n) :
    hexValue? c = some n := by
  obtain ⟨hn, rfl | rfl⟩ := h
  · rw [hexValue?_hexDigit, Nat.mod_eq_of_lt hn]
  · have hupper : ∀ m : Fin 16, hexValue? (hexDigit m).toUpper = some m.val := by decide
    exact hupper ⟨n, hn⟩

theorem hexUnit_cons {a b c d : Char} {i j k l : Nat} (ha : IsHexDigit a i) (hb : IsHexDigit b j)
    (hc : IsHexDigit c k) (hd : IsHexDigit d l) (rest : List Char) :
    hexUnit (a :: b :: c :: d :: rest) = .ok (((i * 16 + j) * 16 + k) * 16 + l, rest) := by
  simp only [hexUnit, hexNumber?, hexValue?_of_isHexDigit ha, hexValue?_of_isHexDigit hb,
    hexValue?_of_isHexDigit hc, hexValue?_of_isHexDigit hd]
  rfl

theorem stringChar_char {c : Char} {text : List Char} (h : WrittenPiece (.char c) text)
    (rest : List Char) : stringChar (text ++ rest) = .ok (some c, rest) := by
  cases h with
  | plain hquote hbackslash hcontrol =>
    rw [List.singleton_append, stringChar, if_neg (Nat.not_lt.2 hcontrol)]
    · exact fun h => hquote h
    · exact fun h => hbackslash h
  | short h =>
    simp only [shortEscapes, List.mem_cons, Prod.mk.injEq, List.not_mem_nil, or_false] at h
    rcases h with h | h | h | h | h | h | h | h <;> (obtain ⟨rfl, rfl⟩ := h; rfl)

theorem hexEscape_of_hexUnit {text rest : List Char} {n : Nat} (h : hexUnit text = .ok (n, rest)) :
    hexEscape text =
      if IsLow n then .error .malformed
      else if IsHigh n then
        match lowSurrogate rest with
        | .ok (m, rest) => .ok (Char.ofNat ((n - 0xD800) * 1024 + (m - 0xDC00) + 0x10000), rest)
        | .error e => .error e
      else .ok (Char.ofNat n, rest) := by
  simp only [hexEscape, h, bind, Except.bind]
  cases lowSurrogate rest <;> rfl

/-- A unit is a character by itself, or with the unit behind it. -/
theorem stringChar_unit {n : Nat} {text : List Char} (h : WrittenPiece (.unit n) text)
    (rest : List Char) :
    stringChar (text ++ rest) =
      if IsLow n then .error .malformed
      else if IsHigh n then
        match lowSurrogate rest with
        | .ok (m, rest) =>
          .ok (some (Char.ofNat ((n - 0xD800) * 1024 + (m - 0xDC00) + 0x10000)), rest)
        | .error e => .error e
      else .ok (some (Char.ofNat n), rest) := by
  cases h with
  | code ha hb hc hd =>
    simp only [List.cons_append, List.nil_append, stringChar, escape,
      hexEscape_of_hexUnit (hexUnit_cons ha hb hc hd rest)]
    split_ifs
    · rfl
    · cases lowSurrogate rest <;> rfl
    · rfl

theorem lowSurrogate_unit {m : Nat} {text : List Char} (h : WrittenPiece (.unit m) text)
    (rest : List Char) :
    lowSurrogate (text ++ rest) = if IsLow m then .ok (m, rest) else .error .malformed := by
  cases h with
  | code ha hb hc hd =>
    simp only [List.cons_append, List.nil_append, lowSurrogate, hexUnit_cons ha hb hc hd]
    rfl

theorem lowSurrogate_char {c : Char} {text : List Char} (h : WrittenPiece (.char c) text)
    (rest : List Char) : lowSurrogate (text ++ rest) = .error .malformed := by
  cases h with
  | plain hquote hbackslash hcontrol =>
    rw [List.singleton_append, lowSurrogate]
    · simp
    · exact fun h => absurd (List.cons.inj h).1 hbackslash
    · exact fun _ h => absurd (List.cons.inj h).1 hbackslash
  | short h =>
    simp only [shortEscapes, List.mem_cons, Prod.mk.injEq, List.not_mem_nil, or_false] at h
    rcases h with h | h | h | h | h | h | h | h <;> (obtain ⟨rfl, rfl⟩ := h; rfl)

/-! ## Reading strings -/

/-- What is read of a string with a text; one without is malformed. -/
def outcome (text? : Option (List Char)) (rest : List Char) :
    Except Fault (List Char × List Char) :=
  match text? with
  | some text => .ok (text, rest)
  | none => .error .malformed

theorem stringWithin_of_stringChar {text rest : List Char} {c : Char}
    (hchar : stringChar text = .ok (some c, rest)) {n fuel : Nat} (hfuel : n + 1 < fuel)
    {text? : Option (List Char)} {after : List Char}
    (hrest : ∀ {less}, n < less → stringWithin less rest = outcome text? after) :
    stringWithin fuel text = outcome (text?.map (c :: ·)) after := by
  obtain ⟨less, rfl⟩ := Nat.exists_eq_add_one_of_ne_zero (Nat.ne_zero_of_lt hfuel)
  rw [stringWithin, hchar]
  simp only [hrest (Nat.lt_of_succ_lt_succ hfuel)]
  cases text? <;> rfl

theorem stringWithin_of_error {text : List Char} (h : stringChar text = .error .malformed)
    {n fuel : Nat} (hfuel : n < fuel) (after : List Char) :
    stringWithin fuel text = outcome none after := by
  obtain ⟨less, rfl⟩ := Nat.exists_eq_add_one_of_ne_zero (Nat.ne_zero_of_lt hfuel)
  rw [stringWithin, h]
  rfl

/-- **A written string is read as its text**, and is malformed if it has none. -/
theorem stringWithin_eq {pieces : List Piece} {text : List Char} (h : WrittenPieces pieces text)
    {fuel : Nat} (hfuel : pieces.length < fuel) (rest : List Char) :
    stringWithin fuel (text ++ '"' :: rest) = outcome (textOf? pieces) rest := by
  fun_induction textOf? pieces generalizing text fuel with
  | case1 =>
    obtain ⟨less, rfl⟩ := Nat.exists_eq_add_one_of_ne_zero (Nat.ne_zero_of_lt hfuel)
    cases h
    rfl
  | case2 c pieces ih =>
    obtain - | ⟨hpiece, hpieces⟩ := h
    refine stringWithin_of_stringChar ?_ hfuel (ih hpieces)
    rw [List.append_assoc, stringChar_char hpiece]
  | case3 n pieces hlow =>
    obtain - | ⟨hpiece, hpieces⟩ := h
    refine stringWithin_of_error ?_ hfuel rest
    rw [List.append_assoc, stringChar_unit hpiece, if_pos hlow]
  | case4 n hlow hhigh m pieces hlow' ih =>
    obtain - | ⟨hpiece, - | ⟨hnext, hpieces⟩⟩ := h
    refine stringWithin_of_stringChar ?_ (Nat.lt_of_succ_lt hfuel) (ih hpieces)
    rw [List.append_assoc, stringChar_unit hpiece, if_neg hlow, if_pos hhigh, List.append_assoc,
      lowSurrogate_unit hnext, if_pos hlow']
  | case5 n hlow hhigh m pieces hlow' =>
    obtain - | ⟨hpiece, - | ⟨hnext, hpieces⟩⟩ := h
    refine stringWithin_of_error ?_ hfuel rest
    rw [List.append_assoc, stringChar_unit hpiece, if_neg hlow, if_pos hhigh, List.append_assoc,
      lowSurrogate_unit hnext, if_neg hlow']
  | case6 n pieces hlow hhigh hpair =>
    obtain - | ⟨hpiece, hpieces⟩ := h
    refine stringWithin_of_error ?_ hfuel rest
    rw [List.append_assoc, stringChar_unit hpiece, if_neg hlow, if_pos hhigh]
    -- What comes next is no unit, and no unit is read in it.
    cases hpieces with
    | nil => rfl
    | @cons piece pieces _ _ hnext hpieces =>
      cases piece with
      | char c => rw [List.append_assoc, lowSurrogate_char hnext]
      | unit m => exact absurd rfl (hpair m pieces)
  | case7 n pieces hlow hhigh ih =>
    obtain - | ⟨hpiece, hpieces⟩ := h
    refine stringWithin_of_stringChar ?_ hfuel (ih hpieces)
    rw [List.append_assoc, stringChar_unit hpiece, if_neg hlow, if_neg hhigh]

theorem length_le_of_writtenPieces {pieces : List Piece} {text : List Char}
    (h : WrittenPieces pieces text) : pieces.length ≤ text.length := by
  induction h with
  | nil => exact Nat.le_refl _
  | @cons _ _ text _ hpiece _ ih =>
    have hone : 1 ≤ text.length := by
      cases hpiece <;> simp
    rw [List.length_cons, List.length_append]
    omega

/-- A written string is read if it has a text, and then its text is what is read. -/
theorem string_eq_ok_iff {pieces : List Piece} {text : List Char} (h : WrittenPieces pieces text)
    {rest after : List Char} {s : String} :
    string (text ++ '"' :: rest) = .ok (s, after) ↔
      (textOf? pieces).map String.ofList = some s ∧ after = rest := by
  have hfuel : pieces.length < (text ++ '"' :: rest).length + 1 := by
    have hlength := length_le_of_writtenPieces h
    rw [List.length_append]
    omega
  rw [string, stringWithin_eq h hfuel]
  cases textOf? pieces with
  | none => simp [outcome]
  | some cs => simp [outcome, eq_comm]

/-! ## Writing strings -/

theorem isHexDigit_hexDigit (n : Nat) : IsHexDigit (hexDigit n) (n % 16) := by
  refine ⟨Nat.mod_lt n (by decide), .inl ?_⟩
  rw [hexDigit, hexDigit, Nat.mod_mod]

theorem textOf?_unit {n : Nat} (hlow : ¬ IsLow n) (hhigh : ¬ IsHigh n) (pieces : List Piece) :
    textOf? (.unit n :: pieces) = (textOf? pieces).map (Char.ofNat n :: ·) := by
  rw [textOf?.eq_def]
  simp only [if_neg hlow, if_neg hhigh]

/-- A written character is a piece that stands for it. -/
theorem exists_writtenPiece (c : Char) :
    ∃ piece, WrittenPiece piece (writtenChar c) ∧
      ∀ pieces, textOf? (piece :: pieces) = (textOf? pieces).map (c :: ·) := by
  have hshort {letter : Char} (h : (letter, c) ∈ shortEscapes) :
      ∃ piece, WrittenPiece piece ['\\', letter] ∧
        ∀ pieces, textOf? (piece :: pieces) = (textOf? pieces).map (c :: ·) :=
    ⟨.char c, .short h, fun _ => rfl⟩
  unfold writtenChar
  split_ifs with hquote hbackslash hback hfeed hline hreturn htab hcontrol
  · exact hshort (by rw [hquote]; decide)
  · exact hshort (by rw [hbackslash]; decide)
  · exact hshort (by rw [hback]; decide)
  · exact hshort (by rw [hfeed]; decide)
  · exact hshort (by rw [hline]; decide)
  · exact hshort (by rw [hreturn]; decide)
  · exact hshort (by rw [htab]; decide)
  · -- A control character has less than sixteen times sixteen as its number.
    have hzero : IsHexDigit '0' 0 := ⟨by decide, .inl rfl⟩
    have hcode := WrittenPiece.code hzero hzero (isHexDigit_hexDigit (c.toNat / 16))
      (isHexDigit_hexDigit c.toNat)
    have hnumber : ((0 * 16 + 0) * 16 + c.toNat / 16 % 16) * 16 + c.toNat % 16 = c.toNat := by
      omega
    rw [hnumber] at hcode
    refine ⟨.unit c.toNat, hcode, fun pieces => ?_⟩
    have hlow : ¬ IsLow c.toNat := fun h => absurd h.1 (by omega)
    have hhigh : ¬ IsHigh c.toNat := fun h => absurd h.1 (by omega)
    rw [textOf?_unit hlow hhigh, Char.ofNat_toNat]
  · exact ⟨.char c, .plain hquote hbackslash (Nat.le_of_not_lt hcontrol), fun _ => rfl⟩

/-- **A text is written as pieces** that stand for it. -/
theorem exists_writtenPieces (text : List Char) :
    ∃ pieces, WrittenPieces pieces (text.flatMap writtenChar) ∧ textOf? pieces = some text := by
  induction text with
  | nil => exact ⟨[], .nil, rfl⟩
  | cons c text ih =>
    obtain ⟨pieces, hpieces, htext⟩ := ih
    obtain ⟨piece, hpiece, hc⟩ := exists_writtenPiece c
    refine ⟨piece :: pieces, ?_, ?_⟩
    · rw [List.flatMap_cons]
      exact .cons hpiece hpieces
    · rw [hc, htext]
      rfl

end SqlDialect.Json
