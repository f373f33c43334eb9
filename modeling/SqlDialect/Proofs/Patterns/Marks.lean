import SqlDialect.Pattern.Basic

/-!
# Marks that are moved

A search moves marks between the places of a text. What it does with them is said by a relation of
places (`Pattern.Moves`): a place is marked afterwards if the relation leads there from a marked
one. Each way to search for a pattern has its relation, made from the relations of its parts; that
of a repetition does not mention that steps beyond the number of places are not taken
(`Pattern.Moves.repetition`).
-/

namespace SqlDialect.Pattern

/-! ## Steps -/

/-- Whether so many steps along a relation lead from one place to another. -/
def InSteps (r : Nat → Nat → Prop) : Nat → Nat → Nat → Prop
  | 0, i, j => i = j
  | n + 1, i, j => ∃ k, r i k ∧ InSteps r n k j

section Steps

variable {r : Nat → Nat → Prop}

theorem inSteps_add {m n i j : Nat} :
    InSteps r (m + n) i j ↔ ∃ k, InSteps r m i k ∧ InSteps r n k j := by
  induction m generalizing i with
  | zero => simp [InSteps]
  | succ m ih =>
    rw [Nat.succ_add]
    simp only [InSteps, ih]
    constructor
    · rintro ⟨k, hr, l, hm, hn⟩
      exact ⟨l, ⟨k, hr, hm⟩, hn⟩
    · rintro ⟨l, ⟨k, hr, hm⟩, hn⟩
      exact ⟨k, hr, l, hm, hn⟩

variable (hforward : ∀ {i j}, r i j → i ≤ j)

include hforward

/-- Of more steps than there are places between, one stays where it is and can be left out. -/
theorem InSteps.of_succ {n i j : Nat} (h : InSteps r (n + 1) i j) (hfar : j < i + (n + 1)) :
    InSteps r n i j := by
  induction n generalizing i with
  | zero =>
    obtain ⟨k, hr, rfl⟩ := h
    have := hforward hr
    exact (by omega : i = k)
  | succ n ih =>
    obtain ⟨k, hr, hrest⟩ := h
    by_cases hk : k = i
    · exact hk ▸ hrest
    · have := hforward hr
      exact ⟨k, hr, ih hrest (by omega)⟩

/-- Of more steps than there are places between, one stays where it is and can be taken again. -/
theorem InSteps.succ {n i j : Nat} (h : InSteps r n i j) (hfar : j < i + n) :
    InSteps r (n + 1) i j := by
  induction n generalizing i with
  | zero =>
    cases h
    omega
  | succ n ih =>
    obtain ⟨k, hr, hrest⟩ := h
    by_cases hk : k = i
    · subst hk
      exact ⟨k, hr, k, hr, hrest⟩
    · have := hforward hr
      exact ⟨k, hr, ih hrest (by omega)⟩

/-- It does not matter how many steps there are, if there are more than places between. -/
theorem InSteps.of_far {m n i j : Nat} (h : InSteps r m i j) (hm : j < i + m) (hn : j < i + n) :
    InSteps r n i j := by
  rcases Nat.le_total m n with hle | hle
  · obtain ⟨d, rfl⟩ := Nat.exists_eq_add_of_le hle
    clear hle hn
    induction d with
    | zero => exact h
    | succ d ih => exact ih.succ hforward (by omega)
  · obtain ⟨d, rfl⟩ := Nat.exists_eq_add_of_le hle
    clear hle hm
    induction d with
    | zero => exact h
    | succ d ih => exact ih (InSteps.of_succ hforward (n := n + d) h (by omega))

/-- Of a number of steps that is given by bounds, those beyond the number of places do not
matter. -/
theorem exists_inSteps_iff {size least : Nat} {most : Option Nat} {i j : Nat}
    (hfar : j < i + size) :
    (∃ more, (∀ bound, most = some bound → more ≤ bound - least) ∧
      InSteps r (least + more) i j) ↔
    ∃ m ≤ (match most with
      | some bound => min (bound - least) size
      | none => size), InSteps r (min least size + m) i j := by
  rcases Nat.le_total least size with hle | hle
  · rw [Nat.min_eq_left hle]
    constructor
    · rintro ⟨more, hmore, hsteps⟩
      refine ⟨min more size, ?_, ?_⟩
      · cases most with
        | none => exact Nat.min_le_right _ _
        | some bound =>
          have := hmore bound rfl
          simp only
          omega
      · rcases Nat.le_total more size with hless | hless
        · rwa [Nat.min_eq_left hless]
        · exact hsteps.of_far hforward (by omega) (by omega)
    · rintro ⟨m, hm, hsteps⟩
      refine ⟨m, ?_, hsteps⟩
      rintro bound rfl
      exact Nat.le_trans hm (Nat.min_le_left _ _)
  · rw [Nat.min_eq_right hle]
    constructor
    · rintro ⟨more, -, hsteps⟩
      exact ⟨0, Nat.zero_le _, hsteps.of_far hforward (by omega) (by omega)⟩
    · rintro ⟨m, -, hsteps⟩
      exact ⟨0, fun _ _ => Nat.zero_le _, hsteps.of_far hforward (by omega) (by omega)⟩

end Steps

/-! ## Moving marks -/

/-- A place is marked. -/
def Marked (marks : List Bool) (i : Nat) : Prop := marks[i]? = some true

/-- Marks on so many places are moved along a relation, which leads forward. -/
structure Moves (size : Nat) (f : List Bool → List Bool) (r : Nat → Nat → Prop) : Prop where
  forward : ∀ {i j}, r i j → i ≤ j
  length_eq : ∀ {marks : List Bool}, marks.length = size → (f marks).length = size
  marked_iff : ∀ {marks : List Bool}, marks.length = size → ∀ {j},
    Marked (f marks) j ↔ ∃ i, Marked marks i ∧ r i j

theorem Marked.lt {marks : List Bool} {i : Nat} (h : Marked marks i) : i < marks.length :=
  (List.getElem?_eq_some_iff.1 h).1

theorem marked_either {marks others : List Bool} (h : marks.length = others.length) {i : Nat} :
    Marked (either marks others) i ↔ Marked marks i ∨ Marked others i := by
  simp only [Marked, either, List.getElem?_zipWith]
  by_cases hi : i < marks.length
  · simp [List.getElem?_eq_getElem hi, List.getElem?_eq_getElem (h ▸ hi)]
  · simp [List.getElem?_eq_none (Nat.not_lt.1 hi), List.getElem?_eq_none (h ▸ Nat.not_lt.1 hi)]

/-- The character before a place. -/
def charBefore (text : List Char) : Nat → Option Char
  | 0 => none
  | i + 1 => text[i]?

theorem getElem?_sides {text : List Char} {i : Nat} (h : i ≤ text.length) :
    (sides text)[i]? = some (charBefore text i, text[i]?) := by
  have hbefore : (none :: text.map some)[i]? = some (charBefore text i) := by
    cases i with
    | zero => rfl
    | succ i => simp [charBefore, List.getElem?_eq_getElem (Nat.lt_of_succ_le h)]
  have hafter : (text.map some ++ [none])[i]? = some text[i]? := by
    rcases Nat.lt_or_eq_of_le h with hlt | rfl
    · simp [List.getElem?_append_left, hlt]
    · simp
  rw [sides, List.getElem?_zip_eq_some]
  exact ⟨hbefore, hafter⟩

theorem length_sides (text : List Char) : (sides text).length = text.length + 1 := by
  simp [sides]

theorem cons_isPrefix_drop_iff {c : Char} {word text : List Char} {i : Nat} :
    c :: word <+: text.drop i ↔ text[i]? = some c ∧ word <+: text.drop (i + 1) := by
  by_cases hi : i < text.length
  · rw [List.drop_eq_getElem_cons hi, List.cons_prefix_cons, List.getElem?_eq_getElem hi,
      Option.some.injEq, eq_comm]
  · simp [List.drop_eq_nil_of_le (Nat.not_lt.1 hi), List.getElem?_eq_none (Nat.not_lt.1 hi)]

namespace Moves

variable {size : Nat} {f g : List Bool → List Bool} {r s : Nat → Nat → Prop}

theorem congr (hf : Moves size f r) (h : ∀ i j, s i j ↔ r i j) : Moves size f s where
  forward := fun hs => hf.forward ((h _ _).1 hs)
  length_eq := hf.length_eq
  marked_iff hsize j := by simp only [hf.marked_iff hsize, h]

theorem stay : Moves size id (· = ·) where
  forward := Nat.le_of_eq
  length_eq h := h
  marked_iff _ _ := by simp

theorem nowhere : Moves size (List.map fun _ => false) fun _ _ => False where
  forward := False.elim
  length_eq h := (List.length_map _).trans h
  marked_iff _ _ := by
    refine iff_of_false (fun h => ?_) fun ⟨_, _, hfalse⟩ => hfalse
    rw [Marked, List.getElem?_map, Option.map_eq_some_iff] at h
    obtain ⟨_, _, hfalse⟩ := h
    cases hfalse

theorem comp (hf : Moves size f r) (hg : Moves size g s) :
    Moves size (fun marks => g (f marks)) fun i j => ∃ k, r i k ∧ s k j where
  forward := fun ⟨_, hr, hs⟩ => Nat.le_trans (hf.forward hr) (hg.forward hs)
  length_eq h := hg.length_eq (hf.length_eq h)
  marked_iff h j := by
    rw [hg.marked_iff (hf.length_eq h)]
    simp only [hf.marked_iff h]
    constructor
    · rintro ⟨k, ⟨i, hi, hr⟩, hs⟩
      exact ⟨i, hi, k, hr, hs⟩
    · rintro ⟨i, hi, k, hr, hs⟩
      exact ⟨k, ⟨i, hi, hr⟩, hs⟩

theorem either (hf : Moves size f r) (hg : Moves size g s) :
    Moves size (fun marks => Pattern.either (f marks) (g marks)) fun i j => r i j ∨ s i j where
  forward := fun h => h.elim hf.forward hg.forward
  length_eq h := by simp [Pattern.either, hf.length_eq h, hg.length_eq h]
  marked_iff h j := by
    rw [marked_either (by rw [hf.length_eq h, hg.length_eq h]), hf.marked_iff h, hg.marked_iff h]
    simp only [← exists_or, ← and_or_left]

theorem past (text : List Char) (test : Char → Bool) :
    Moves (text.length + 1) (Pattern.past text test) fun i j =>
      (∃ c, text[i]? = some c ∧ test c = true) ∧ j = i + 1 where
  forward := fun h => h.2 ▸ Nat.le_succ _
  length_eq h := by simp [Pattern.past, h]
  marked_iff {marks} h j := by
    cases j with
    | zero => simp [Marked, Pattern.past]
    | succ i =>
      simp [Marked, Pattern.past, List.getElem?_zipWith_eq_some]

theorem look (text : List Char) (l : Look) :
    Moves (text.length + 1)
      (fun marks => List.zipWith (fun mark (before, after) => mark && l.holds before after) marks
        (sides text))
      fun i j => i = j ∧ l.holds (charBefore text i) text[i]? = true where
  forward := fun h => Nat.le_of_eq h.1
  length_eq h := by simp [length_sides, h]
  marked_iff {marks} h j := by
    have hle : ∀ {i}, i < marks.length → i ≤ text.length := by omega
    simp only [Marked, List.getElem?_zipWith_eq_some, Bool.and_eq_true]
    constructor
    · rintro ⟨mark, side, hmark, hside, rfl, hholds⟩
      rw [getElem?_sides (hle (Marked.lt hmark))] at hside
      cases hside
      exact ⟨j, hmark, rfl, hholds⟩
    · rintro ⟨i, hmark, rfl, hholds⟩
      exact ⟨true, _, hmark, getElem?_sides (hle (Marked.lt hmark)), rfl, hholds⟩

/-- A word is matched character by character. -/
theorem literal (text word : List Char) :
    Moves (text.length + 1)
      (fun marks => word.foldl (fun marks c => Pattern.past text (· == c) marks) marks)
      fun i j => word <+: text.drop i ∧ j = i + word.length := by
  induction word with
  | nil => exact stay.congr fun i j => by simp [eq_comm]
  | cons c word ih =>
    refine ((past text (· == c)).comp ih).congr fun i j => ?_
    rw [cons_isPrefix_drop_iff, List.length_cons]
    constructor
    · rintro ⟨⟨hc, hword⟩, rfl⟩
      exact ⟨i + 1, ⟨⟨c, hc, beq_self_eq_true c⟩, rfl⟩, hword, by omega⟩
    · rintro ⟨_, ⟨⟨c', hc, heq⟩, rfl⟩, hword, rfl⟩
      obtain rfl := eq_of_beq heq
      exact ⟨⟨hc, hword⟩, by omega⟩

theorem steps (hf : Moves size f r) (n : Nat) : Moves size (rounds f n) (InSteps r n) := by
  induction n with
  | zero => exact stay
  | succ n ih => exact hf.comp ih

/-- What up to so many steps can reach. Once a step brings no new mark, no further one does. -/
theorem upTo (hf : Moves size f r) (n : Nat) :
    Moves size (Pattern.upTo f n) fun i j => ∃ m ≤ n, InSteps r m i j := by
  induction n with
  | zero => exact stay.congr fun i j => by simp [InSteps]
  | succ n ih =>
    have hmore : Moves size (fun marks => Pattern.either marks (f marks)) fun i j =>
        i = j ∨ r i j := stay.either hf
    refine ⟨fun ⟨m, _, hm⟩ => (hf.steps m).forward hm, fun h => ?_, fun {marks} h j => ?_⟩
    · simp only [Pattern.upTo]
      split
      · exact h
      · exact ih.length_eq (hmore.length_eq h)
    · simp only [Pattern.upTo]
      split
      · next hclosed =>
        have hstep : ∀ {i j}, Marked marks i → r i j → Marked marks j := fun hi hr => by
          rw [← hclosed]
          exact (hmore.marked_iff h).2 ⟨_, hi, .inr hr⟩
        have hsteps : ∀ {m i}, Marked marks i → InSteps r m i j → Marked marks j := by
          intro m
          induction m with
          | zero => exact fun hi hj => hj ▸ hi
          | succ m hm => exact fun hi ⟨k, hr, hrest⟩ => hm (hstep hi hr) hrest
        exact ⟨fun hj => ⟨j, hj, 0, Nat.zero_le _, rfl⟩, fun ⟨i, hi, m, _, hm⟩ => hsteps hi hm⟩
      · rw [ih.marked_iff (hmore.length_eq h)]
        simp only [hmore.marked_iff h]
        constructor
        · rintro ⟨k, ⟨i, hi, rfl | hr⟩, m, hle, hm⟩
          · exact ⟨i, hi, m, Nat.le_succ_of_le hle, hm⟩
          · exact ⟨i, hi, m + 1, Nat.succ_le_succ hle, k, hr, hm⟩
        · rintro ⟨i, hi, _ | m, hle, hm⟩
          · exact ⟨i, ⟨i, hi, .inl rfl⟩, 0, Nat.zero_le _, hm⟩
          · obtain ⟨k, hr, hrest⟩ := hm
            exact ⟨k, ⟨i, hi, .inr hr⟩, m, Nat.le_of_succ_le_succ hle, hrest⟩

/-- Steps beyond the number of places are not taken. -/
theorem repetition (hf : Moves size f r) (least : Nat) (most : Option Nat) :
    Moves size
      (fun marks => Pattern.upTo f (match most with
        | some most => min (most - least) size
        | none => size) (rounds f (min least size) marks))
      fun i j => ∃ more, (∀ bound, most = some bound → more ≤ bound - least) ∧
        InSteps r (least + more) i j := by
  have hsearch := (hf.steps (min least size)).comp (hf.upTo (match most with
    | some most => min (most - least) size
    | none => size))
  refine ⟨fun ⟨more, _, hsteps⟩ => (hf.steps _).forward hsteps, hsearch.length_eq,
    fun h j => ⟨fun hj => ?_, ?_⟩⟩
  · have hlt : j < size := hsearch.length_eq h ▸ hj.lt
    obtain ⟨i, hi, k, hleast, m, hm, hfurther⟩ := (hsearch.marked_iff h).1 hj
    exact ⟨i, hi, (exists_inSteps_iff hf.forward (by omega)).2
      ⟨m, hm, inSteps_add.2 ⟨k, hleast, hfurther⟩⟩⟩
  · rintro ⟨i, hi, more, hmore, hsteps⟩
    have hlt : j < size :=
      (hf.steps _).length_eq h ▸ (((hf.steps _).marked_iff h).2 ⟨i, hi, hsteps⟩).lt
    obtain ⟨m, hm, hcapped⟩ :=
      (exists_inSteps_iff hf.forward (by omega : j < i + size)).1 ⟨more, hmore, hsteps⟩
    obtain ⟨k, hleast, hfurther⟩ := inSteps_add.1 hcapped
    exact (hsearch.marked_iff h).2 ⟨i, hi, k, hleast, m, hm, hfurther⟩

end Moves

end SqlDialect.Pattern
