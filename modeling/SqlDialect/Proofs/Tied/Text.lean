import SqlDialect.Proofs.Unmarked

/-!
# Texts with their values

The text of a statement says where its placeholders stand, but not which value each of them was
written for. A `Tied` text says both: it is a list of signs, each either a character or a
placeholder with its value. What a reader sees of it is `Tied.text`, and `Tied.values` are the
values in the order of their placeholders.

`Tied.Aligned t sql values` is what ties a statement to its values: `t` reads `sql`, every question
mark of it is a placeholder, and the placeholders are for `values`, from left to right. So each
question mark of `sql` is for the value with as many values before it as there are question marks
before the mark (`Tied.Aligned.slot_at`). Aligned texts can be written one after another
(`Tied.Aligned.append`), with separators between them (`Tied.AlignedList.join`) and with
connectives (`Tied.AlignedChain.chain`).
-/

namespace SqlDialect

/-- A character of a statement, or a placeholder with the value that it is written for. -/
inductive Sign
  | char (c : Char)
  | slot (value : Value)

namespace Sign

/-- What is seen of a sign. -/
def toChar : Sign → Char
  | .char c => c
  | .slot _ => '?'

/-- The value of a placeholder. -/
def value? : Sign → Option Value
  | .char _ => none
  | .slot value => some value

end Sign

/-- A text in which each placeholder has its value. -/
abbrev Tied := List Sign

/-- The raw text has a placeholder for each of the values. -/
def HasSlots (sql : String) (values : List Value) : Prop := sql.toList.count '?' = values.length

instance (sql : String) (values : List Value) : Decidable (HasSlots sql values) :=
  inferInstanceAs (Decidable (sql.toList.count '?' = values.length))

namespace Tied

/-- What is seen of a tied text. -/
def text (t : Tied) : String := String.ofList (t.map Sign.toChar)

/-- The values in the order of their placeholders. -/
def values (t : Tied) : List Value := t.filterMap Sign.value?

/-- No question mark is without a value. -/
def Full (t : Tied) : Prop := .char '?' ∉ t

/-- The tied text reads `sql`, the question marks of it are its placeholders, and the placeholders
are for `values`, from left to right. -/
structure Aligned (t : Tied) (sql : String) (values : List Value) : Prop where
  text_eq : t.text = sql
  full : t.Full
  values_eq : t.values = values

/-! ## Ways to write -/

/-- A text without placeholders. -/
def plain (s : String) : Tied := s.toList.map .char

/-- The characters of a text with values for its question marks, one after another. -/
def fillChars : List Char → List Value → Tied
  | [], _ => []
  | c :: cs, [] => .char c :: fillChars cs []
  | c :: cs, v :: vs =>
    if c = '?' then .slot v :: fillChars cs vs else .char c :: fillChars cs (v :: vs)

/-- A raw text with values for its question marks, one after another. -/
def fill (sql : String) (values : List Value) : Tied := fillChars sql.toList values

/-- Tied texts with a separator between them. -/
def join (separator : String) (ts : List Tied) : Tied := (plain separator).intercalate ts

/-- Conditions one after another, each with its connective but the first. -/
def continued : List (Connective × Tied) → Tied
  | [] => []
  | (connective, t) :: rest => plain (" " ++ connective.text ++ " ") ++ t ++ continued rest

/-- Conditions joined by their connectives; that of the first is not used. -/
def chain : List (Connective × Tied) → Tied
  | [] => []
  | (_, t) :: rest => t ++ continued rest

/-! ## What is seen of signs, and what they are for -/

@[simp] theorem text_append (t u : Tied) : text (t ++ u) = t.text ++ u.text := by
  simp only [text, List.map_append, String.ofList_append]

@[simp] theorem values_cons_char (c : Char) (t : Tied) : values (.char c :: t) = t.values := rfl

@[simp] theorem values_cons_slot (value : Value) (t : Tied) :
    values (.slot value :: t) = value :: t.values := rfl

@[simp] theorem values_append (t u : Tied) : values (t ++ u) = t.values ++ u.values :=
  List.filterMap_append

@[simp] theorem full_append {t u : Tied} : Full (t ++ u) ↔ t.Full ∧ u.Full := by
  simp only [Full, List.mem_append, not_or]

theorem toChar_fillChars (cs : List Char) (vs : List Value) :
    (fillChars cs vs).map Sign.toChar = cs := by
  fun_induction fillChars cs vs <;> simp_all [Sign.toChar]

theorem values_fillChars (cs : List Char) (vs : List Value) :
    values (fillChars cs vs) = vs.take (cs.count '?') := by
  fun_induction fillChars cs vs with
  | case1 => simp [values]
  | case2 c cs ih => simpa using ih
  | case3 cs v vs ih => simpa using ih
  | case4 c cs v vs hc ih => simpa [List.count_cons, hc] using ih

theorem full_fillChars {cs : List Char} {vs : List Value} (h : cs.count '?' ≤ vs.length) :
    Full (fillChars cs vs) := by
  fun_induction fillChars cs vs with
  | case1 => exact nofun
  | case2 c cs ih =>
    have hc : c ≠ '?' ∧ cs.count '?' = 0 := by
      rw [List.count_cons, List.length_nil] at h
      split at h
      · omega
      · next hne => exact ⟨by simpa using hne, by omega⟩
    simp only [Full, List.mem_cons, Sign.char.injEq, not_or]
    exact ⟨hc.1.symm, ih (Nat.le_of_eq hc.2)⟩
  | case3 cs v vs ih =>
    simp only [Full, List.mem_cons, reduceCtorEq, false_or]
    exact ih (by simpa using h)
  | case4 c cs v vs hc ih =>
    simp only [Full, List.mem_cons, Sign.char.injEq, not_or]
    exact ⟨fun heq => hc heq.symm, ih (by simpa [List.count_cons, hc] using h)⟩

/-- A full text has as many question marks as values. -/
theorem count_text {t : Tied} (h : t.Full) : t.text.toList.count '?' = t.values.length := by
  rw [text, String.toList_ofList]
  induction t with
  | nil => rfl
  | cons s t ih =>
    have hrest : Full t := fun hmem => h (List.mem_cons_of_mem s hmem)
    cases s with
    | char c =>
      have hc : c ≠ '?' := by
        rintro rfl
        exact h List.mem_cons_self
      simpa [Sign.toChar, hc] using ih hrest
    | slot value => simpa [Sign.toChar] using ih hrest

/-! ## Aligned texts -/

theorem aligned_nil : Aligned [] "" [] := ⟨rfl, nofun, rfl⟩

theorem aligned_slot (value : Value) : Aligned [.slot value] "?" [value] :=
  ⟨rfl, by simp [Full], rfl⟩

theorem aligned_plain {s : String} (h : Unmarked s) : (plain s).Aligned s [] where
  text_eq := by
    simp only [text, plain, List.map_map, Function.comp_def, Sign.toChar, List.map_id',
      String.ofList_toList]
  full := by
    simpa only [Full, plain, List.mem_map, Sign.char.injEq, exists_eq_right, Unmarked] using h
  values_eq := by simp [values, plain, Sign.value?]

theorem aligned_fill {sql : String} {values : List Value} (h : HasSlots sql values) :
    (fill sql values).Aligned sql values where
  text_eq := by rw [text, fill, toChar_fillChars, String.ofList_toList]
  full := full_fillChars (Nat.le_of_eq h)
  values_eq := by rw [fill, values_fillChars, h, List.take_length]

namespace Aligned

variable {t u : Tied} {s s' : String} {vs ws : List Value}

theorem append (ht : t.Aligned s vs) (hu : u.Aligned s' ws) :
    Aligned (t ++ u) (s ++ s') (vs ++ ws) where
  text_eq := by rw [text_append, ht.text_eq, hu.text_eq]
  full := full_append.2 ⟨ht.full, hu.full⟩
  values_eq := by rw [values_append, ht.values_eq, hu.values_eq]

/-- A text without placeholders in front. -/
theorem plain_append (hs : Unmarked s) (hu : u.Aligned s' ws) :
    Aligned (plain s ++ u) (s ++ s') ws :=
  (aligned_plain hs).append hu

/-- A text without placeholders behind. -/
theorem append_plain (ht : t.Aligned s vs) (hs : Unmarked s') :
    Aligned (t ++ plain s') (s ++ s') vs := by
  simpa using ht.append (aligned_plain hs)

/-- Texts without placeholders on both sides. -/
theorem enclosed {before after : String} (hb : Unmarked before) (ht : t.Aligned s vs)
    (ha : Unmarked after) :
    Aligned (plain before ++ t ++ plain after) (before ++ s ++ after) vs :=
  (plain_append hb ht).append_plain ha

theorem nil_iff (ht : t.Aligned s vs) : t = [] ↔ s = "" := by
  rw [← ht.text_eq]
  simp [text]

/-- **A question mark is the placeholder of one of the values**: as many others stand before it as
values before that one. -/
theorem slot_at (ht : t.Aligned s vs) {n : Nat} (hn : s.toList[n]? = some '?') :
    ∃ value, t[n]? = some (.slot value) ∧ vs[(s.toList.take n).count '?']? = some value := by
  have hchars : s.toList = t.map Sign.toChar := by rw [← ht.text_eq, text, String.toList_ofList]
  rw [hchars, List.getElem?_map, Option.map_eq_some_iff] at hn
  obtain ⟨sign, hsign, hchar⟩ := hn
  cases sign with
  | char c => exact absurd (hchar ▸ List.mem_of_getElem? hsign) ht.full
  | slot value =>
    refine ⟨value, hsign, ?_⟩
    obtain ⟨hlt, hget⟩ := List.getElem?_eq_some_iff.1 hsign
    -- The text before the placeholder is aligned with the values before its own.
    have hbefore : Full (t.take n) := fun hmem => ht.full (List.mem_of_mem_take hmem)
    have hcount := count_text hbefore
    rw [text, String.toList_ofList, List.map_take] at hcount
    have hsplit : t = t.take n ++ .slot value :: t.drop (n + 1) := by
      rw [← hget, List.getElem_cons_drop, List.take_append_drop]
    have hvalues : t.values = values (t.take n) ++ value :: values (t.drop (n + 1)) :=
      (congrArg values hsplit).trans (by rw [values_append, values_cons_slot])
    rw [hchars, hcount, ← ht.values_eq, hvalues, List.getElem?_append_right (Nat.le_refl _),
      Nat.sub_self, List.getElem?_cons_zero]

/-- There are as many question marks as values. -/
theorem count (ht : t.Aligned s vs) : s.toList.count '?' = vs.length := by
  rw [← ht.text_eq, ← ht.values_eq, count_text ht.full]

end Aligned

/-! ## Lists of aligned texts -/

/-- The tied texts read `texts`, one each, and their placeholders are for `values`. -/
structure AlignedList (ts : List Tied) (texts : List String) (values : List Value) : Prop where
  texts_eq : ts.map text = texts
  full : ∀ t ∈ ts, t.Full
  values_eq : ts.flatMap Tied.values = values

/-- The tied conditions read `texts`, with the same connectives, and their placeholders are for
`values`. -/
structure AlignedChain (cs : List (Connective × Tied)) (texts : List (Connective × String))
    (values : List Value) : Prop where
  texts_eq : cs.map (fun c => (c.1, c.2.text)) = texts
  full : ∀ c ∈ cs, c.2.Full
  values_eq : cs.flatMap (fun c => c.2.values) = values

namespace AlignedList

theorem nil : AlignedList [] [] [] := ⟨rfl, nofun, rfl⟩

theorem cons {t : Tied} {s : String} {vs : List Value} (ht : t.Aligned s vs) {ts : List Tied}
    {texts : List String} {ws : List Value} (h : AlignedList ts texts ws) :
    AlignedList (t :: ts) (s :: texts) (vs ++ ws) where
  texts_eq := by rw [List.map_cons, ht.text_eq, h.texts_eq]
  full := List.forall_mem_cons.2 ⟨ht.full, h.full⟩
  values_eq := by rw [List.flatMap_cons, ht.values_eq, h.values_eq]

theorem singleton {t : Tied} {s : String} {vs : List Value} (ht : t.Aligned s vs) :
    AlignedList [t] [s] vs := by
  simpa using cons ht nil

theorem append {ts us : List Tied} {texts more : List String} {vs ws : List Value}
    (ht : AlignedList ts texts vs) (hu : AlignedList us more ws) :
    AlignedList (ts ++ us) (texts ++ more) (vs ++ ws) where
  texts_eq := by rw [List.map_append, ht.texts_eq, hu.texts_eq]
  full := List.forall_mem_append.2 ⟨ht.full, hu.full⟩
  values_eq := by rw [List.flatMap_append, ht.values_eq, hu.values_eq]

theorem isEmpty_eq {ts : List Tied} {texts : List String} {vs : List Value}
    (h : AlignedList ts texts vs) : ts.isEmpty = texts.isEmpty := by
  rw [← h.texts_eq, List.isEmpty_map]

/-- Without texts there are no values. -/
theorem values_eq_nil {ts : List Tied} {vs : List Value} (h : AlignedList ts [] vs) : vs = [] := by
  rw [← h.values_eq, List.map_eq_nil_iff.1 h.texts_eq]
  rfl

/-- One text for each member of a list. -/
theorem map {α : Type} {l : List α} {tied : α → Tied} {written : α → String}
    {values : α → List Value} (h : ∀ a ∈ l, (tied a).Aligned (written a) (values a)) :
    AlignedList (l.map tied) (l.map written) (l.flatMap values) := by
  induction l with
  | nil => exact nil
  | cons a l ih =>
    obtain ⟨ha, hl⟩ := List.forall_mem_cons.1 h
    exact cons ha (ih hl)

/-- A list of texts for each member of a list. -/
theorem flatMap {α : Type} {l : List α} {tied : α → List Tied} {written : α → List String}
    {values : α → List Value} (h : ∀ a ∈ l, AlignedList (tied a) (written a) (values a)) :
    AlignedList (l.flatMap tied) (l.flatMap written) (l.flatMap values) := by
  induction l with
  | nil => exact nil
  | cons a l ih =>
    obtain ⟨ha, hl⟩ := List.forall_mem_cons.1 h
    exact append ha (ih hl)

/-- Aligned texts with a separator between them. -/
theorem join {separator : String} (hs : Unmarked separator) {ts : List Tied}
    {texts : List String} {vs : List Value} (h : AlignedList ts texts vs) :
    (Tied.join separator ts).Aligned (separator.intercalate texts) vs := by
  obtain ⟨rfl, hfull, rfl⟩ := h
  induction ts with
  | nil => exact aligned_nil
  | cons t rest ih =>
    obtain ⟨ht, hrest⟩ := List.forall_mem_cons.1 hfull
    cases rest with
    | nil => simpa [Tied.join] using (⟨rfl, ht, rfl⟩ : t.Aligned t.text t.values)
    | cons u rest =>
      have hjoin : Tied.join separator (t :: u :: rest) =
          t ++ plain separator ++ Tied.join separator (u :: rest) := by
        simp only [Tied.join, List.intercalate_cons_cons]
      rw [hjoin, List.map_cons, List.map_cons, String.intercalate_cons_cons, List.flatMap_cons]
      exact (Aligned.append_plain ⟨rfl, ht, rfl⟩ hs).append (ih hrest)

end AlignedList

namespace AlignedChain

theorem nil : AlignedChain [] [] [] := ⟨rfl, nofun, rfl⟩

theorem singleton (connective : Connective) {t : Tied} {s : String} {vs : List Value}
    (ht : t.Aligned s vs) : AlignedChain [(connective, t)] [(connective, s)] vs where
  texts_eq := by rw [List.map_singleton, ht.text_eq]
  full := List.forall_mem_singleton.2 ht.full
  values_eq := by rw [List.flatMap_singleton, ht.values_eq]

theorem append {cs ds : List (Connective × Tied)} {texts more : List (Connective × String)}
    {vs ws : List Value} (hc : AlignedChain cs texts vs) (hd : AlignedChain ds more ws) :
    AlignedChain (cs ++ ds) (texts ++ more) (vs ++ ws) where
  texts_eq := by rw [List.map_append, hc.texts_eq, hd.texts_eq]
  full := List.forall_mem_append.2 ⟨hc.full, hd.full⟩
  values_eq := by rw [List.flatMap_append, hc.values_eq, hd.values_eq]

/-- Without conditions there are no values. -/
theorem values_eq_nil {cs : List (Connective × Tied)} {vs : List Value}
    (h : AlignedChain cs [] vs) : vs = [] := by
  rw [← h.values_eq, List.map_eq_nil_iff.1 h.texts_eq]
  rfl

/-- A list of conditions for each member of a list. -/
theorem flatMap {α : Type} {l : List α} {tied : α → List (Connective × Tied)}
    {written : α → List (Connective × String)} {values : α → List Value}
    (h : ∀ a ∈ l, AlignedChain (tied a) (written a) (values a)) :
    AlignedChain (l.flatMap tied) (l.flatMap written) (l.flatMap values) := by
  induction l with
  | nil => exact nil
  | cons a l ih =>
    obtain ⟨ha, hl⟩ := List.forall_mem_cons.1 h
    exact append ha (ih hl)

theorem continued {cs : List (Connective × Tied)} {texts : List (Connective × String)}
    {vs : List Value} (h : AlignedChain cs texts vs) :
    (Tied.continued cs).Aligned (SqlDialect.continued texts) vs := by
  obtain ⟨rfl, hfull, rfl⟩ := h
  induction cs with
  | nil => exact aligned_nil
  | cons c rest ih =>
    obtain ⟨connective, t⟩ := c
    obtain ⟨ht, hrest⟩ := List.forall_mem_cons.1 hfull
    have hword : Unmarked (" " ++ connective.text ++ " ") := by
      cases connective <;> decide
    exact ((Aligned.plain_append hword ⟨rfl, ht, rfl⟩)).append (ih hrest)

/-- Aligned conditions joined by their connectives. -/
theorem chain {cs : List (Connective × Tied)} {texts : List (Connective × String)}
    {vs : List Value} (h : AlignedChain cs texts vs) :
    (Tied.chain cs).Aligned (SqlDialect.chain texts) vs := by
  obtain ⟨rfl, hfull, rfl⟩ := h
  cases cs with
  | nil => exact aligned_nil
  | cons c rest =>
    obtain ⟨connective, t⟩ := c
    obtain ⟨ht, hrest⟩ := List.forall_mem_cons.1 hfull
    exact Aligned.append ⟨rfl, ht, rfl⟩ (continued ⟨rfl, hrest, rfl⟩)

end AlignedChain

end Tied

end SqlDialect
