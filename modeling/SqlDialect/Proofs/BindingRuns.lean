import Mathlib.Data.List.Forall2
import SqlDialect.Proofs.InPlace.Compiled

/-!
# Runs of operations on bindings

Bindings that start empty are changed by adding, extending, setting and taking, in any order and any
number of times (`Bindings.Operation`). Whatever a run does, it does to the list of each category on
its own (`Bindings.listOf`): four lists that know nothing of each other hold the same values
(`Bindings.run_refines_lists`). As a category without values is never stored, what is stored can be
compared in place of the lists, and two runs end in equal bindings exactly if they end in equal
lists.
-/

namespace SqlDialect

/-! ## Equal values -/

namespace Value

/-- Values that are equal. A floating-point number that is none is equal to no value, the two zeros
are equal, and apart from that only a value itself is. -/
inductive Same : Value → Value → Prop
  | float {x y : Double} (hx : x.isNaN = false) (hy : y.isNaN = false)
      (h : x = y ∨ x.isZero = true ∧ y.isZero = true) : Same (.float x) (.float y)
  | self {value : Value} (h : ∀ x, value ≠ .float x) : Same value value

theorem same_float_iff {x y : Double} : Same (.float x) (.float y) ↔
    x.isNaN = false ∧ y.isNaN = false ∧ (x = y ∨ x.isZero = true ∧ y.isZero = true) := by
  constructor
  · intro h
    cases h with
    | float hx hy h => exact ⟨hx, hy, h⟩
    | self h => exact absurd rfl (h x)
  · rintro ⟨hx, hy, h⟩
    exact .float hx hy h

theorem same_iff_eq {value other : Value} (h : ∀ x, value ≠ .float x) :
    Same value other ↔ value = other := by
  constructor
  · intro hsame
    cases hsame with
    | float => exact absurd rfl (h _)
    | self => rfl
  · rintro rfl
    exact .self h

theorem ieeeEq_iff {x y : Double} : (x == y) = true ↔
    x.isNaN = false ∧ y.isNaN = false ∧ (x = y ∨ x.isZero = true ∧ y.isZero = true) := by
  have hdef : (x == y) =
      (!x.isNaN && !y.isNaN && (x.bits == y.bits || (x.isZero && y.isZero))) := rfl
  have hbits : x = y ↔ x.bits = y.bits := by
    cases x
    cases y
    simp
  rw [hdef, hbits]
  simp [and_assoc]

theorem beq_iff_same {value other : Value} : (value == other) = true ↔ Same value other := by
  have hdef : (value == other) = sameAs value other := rfl
  rw [hdef]
  by_cases hfloat : ∃ x, value = .float x
  · obtain ⟨x, rfl⟩ := hfloat
    cases other with
    | float y => exact ieeeEq_iff.trans same_float_iff.symm
    | _ => exact iff_of_false Bool.false_ne_true (by rintro ⟨⟩)
  · have hother : ∀ x, value ≠ .float x := fun x hx => hfloat ⟨x, hx⟩
    rw [same_iff_eq hother]
    cases value <;> cases other <;> simp_all [sameAs]

end Value

namespace Bindings

/-! ## Runs -/

/-- A change of bindings. -/
inductive Operation
  | add (c : Category) (value : Value)
  | extend (c : Category) (values : List Value)
  | set (c : Category) (values : List Value)
  | take (c : Category)

namespace Operation

/-- The bindings after a change. -/
def act : Operation → Bindings → Bindings
  | .add c value, b => b.add c value
  | .extend c values, b => b.extend c values
  | .set c values, b => b.set c values
  | .take c, b => (b.take c).2

/-- What a change does to the list of a category. Changes of other categories leave it alone. -/
def onList (d : Category) : Operation → List Value → List Value
  | .add c value, values => if d = c then values ++ [value] else values
  | .extend c more, values => if d = c then values ++ more else values
  | .set c others, values => if d = c then others else values
  | .take c, values => if d = c then [] else values

theorem get_act (o : Operation) (b : Bindings) (d : Category) :
    (o.act b).get d = o.onList d (b.get d) := by
  cases o with
  | add c value =>
    simp only [act, onList, get_add]
    split
    · next h => rw [h]
    · rfl
  | extend c values =>
    simp only [act, onList, get_extend]
    split
    · next h => rw [h]
    · rfl
  | set c values => exact get_set b c d values
  | take c => exact get_take b c d

end Operation

/-- The bindings after some changes, one after another, that start from none. -/
def run (ops : List Operation) : Bindings := ops.foldl (fun b o => o.act b) empty

/-- The list of a category after the same changes, made to that list alone. -/
def listOf (c : Category) (ops : List Operation) : List Value :=
  ops.foldl (fun values o => o.onList c values) []

theorem get_run (ops : List Operation) (c : Category) : (run ops).get c = listOf c ops := by
  have from_any : ∀ (b : Bindings) (values : List Value), b.get c = values →
      (ops.foldl (fun b o => o.act b) b).get c =
        ops.foldl (fun values o => o.onList c values) values := by
    induction ops with
    | nil => exact fun _ _ h => h
    | cons o ops ih =>
      intro b values h
      exact ih (o.act b) (o.onList c values) (h ▸ o.get_act b c)
  exact from_any empty [] (get_empty c)

/-! ## Categories without values -/

theorem compact_empty : empty.Compact := by
  intro c
  cases c <;> simp [empty, stored?]

theorem compact_store {b : Bindings} (h : b.Compact) (c : Category) {values? : Option (List Value)}
    (hvalues : values? ≠ some []) : (b.store c values?).Compact := by
  intro d
  rw [stored?_store]
  split
  · exact hvalues
  · exact h d

/-- No change stores an empty list. -/
theorem Compact.act {b : Bindings} (h : b.Compact) (o : Operation) : (o.act b).Compact := by
  cases o with
  | add c value => exact compact_store h c (by simp)
  | extend c values => exact h.extend
  | set c values => exact compact_store h c (by cases values <;> simp)
  | take c => exact h.take

theorem compact_run (ops : List Operation) : (run ops).Compact := by
  have from_any : ∀ b : Bindings, b.Compact →
      (ops.foldl (fun b o => o.act b) b).Compact := by
    induction ops with
    | nil => exact fun _ h => h
    | cons o ops ih => exact fun b h => ih (o.act b) (h.act o)
  exact from_any empty compact_empty

/-- Without empty lists, a category is stored if it has values. -/
theorem Compact.stored?_eq_none_iff {b : Bindings} (h : b.Compact) {c : Category} :
    b.stored? c = none ↔ b.get c = [] := by
  have hc := h c
  rw [get]
  cases hstored : b.stored? c with
  | none => simp
  | some values =>
    rw [hstored] at hc
    simpa using hc

theorem length_eq_length_flatten (b : Bindings) : b.length = b.flatten.length := by
  simp only [length, flatten, List.length_append]

theorem Compact.isEmpty_iff {b : Bindings} (h : b.Compact) :
    b.isEmpty = true ↔ b.length = 0 := by
  have hnone : b.isEmpty = true ↔ ∀ c, b.stored? c = none := by
    simp only [isEmpty, Bool.and_eq_true, Option.isNone_iff_eq_none]
    constructor
    · rintro ⟨⟨⟨hselect, hcondition⟩, hhaving⟩, horder⟩ c
      cases c <;> assumption
    · intro hall
      exact ⟨⟨⟨hall .select, hall .condition⟩, hall .having⟩, hall .order⟩
  simp only [hnone, h.stored?_eq_none_iff, length_eq_length_flatten, List.length_eq_zero_iff,
    flatten, List.append_eq_nil_iff]
  constructor
  · intro hall
    exact ⟨⟨⟨hall .select, hall .condition⟩, hall .having⟩, hall .order⟩
  · rintro ⟨⟨⟨hselect, hcondition⟩, hhaving⟩, horder⟩ c
    cases c <;> assumption

/-! ## Equality -/

/-- Values are equal one by one. -/
def SameValues (values others : List Value) : Prop := List.Forall₂ Value.Same values others

theorem beq_iff_sameValues {values others : List Value} :
    (values == others) = true ↔ SameValues values others := by
  induction values generalizing others with
  | nil => cases others <;> simp [SameValues]
  | cons value values ih =>
    cases others with
    | nil => simp [SameValues]
    | cons other others =>
      rw [List.cons_beq_cons, Bool.and_eq_true, Value.beq_iff_same, ih, SameValues, SameValues,
        List.forall₂_cons]

theorem beq_iff_stored? {a b : Bindings} :
    (a == b) = true ↔ ∀ c, (a.stored? c == b.stored? c) = true := by
  have hfields : (a == b) = (a.select == b.select && (a.condition == b.condition &&
      (a.having == b.having && a.order == b.order))) := rfl
  rw [hfields]
  simp only [Bool.and_eq_true]
  constructor
  · rintro ⟨hselect, hcondition, hhaving, horder⟩ c
    cases c <;> assumption
  · intro hall
    exact ⟨hall .select, hall .condition, hall .having, hall .order⟩

/-- Without empty lists, what is stored is equal exactly if the lists are. -/
theorem Compact.beq_iff {a b : Bindings} (ha : a.Compact) (hb : b.Compact) :
    (a == b) = true ↔ ∀ c, SameValues (a.get c) (b.get c) := by
  rw [beq_iff_stored?]
  refine forall_congr' fun c => ?_
  have hac := ha c
  have hbc := hb c
  rw [← beq_iff_sameValues, get, get]
  cases hastored : a.stored? c with
  | none =>
    cases hbstored : b.stored? c with
    | none => simp
    | some others =>
      rw [hbstored] at hbc
      cases others with
      | nil => exact absurd rfl hbc
      | cons other others => simp
  | some values =>
    rw [hastored] at hac
    cases hbstored : b.stored? c with
    | none =>
      cases values with
      | nil => exact absurd rfl hac
      | cons value values => simp
    | some others => simp

/-! ## The four lists -/

/-- **Bindings are four lists that know nothing of each other**, whatever was done to them. No
category is stored without values. A category has the values of its list, and taking it answers them
and empties it. All values stand in the order of the categories; they are counted, and there are
none exactly if nothing is stored. And two runs end in equal bindings exactly if their lists have
equal values. -/
theorem run_refines_lists (ops : List Operation) :
    (run ops).Compact ∧
    (∀ c, (run ops).get c = listOf c ops ∧
      (run ops).take c = (listOf c ops, run (ops ++ [.take c]))) ∧
    (run ops).flatten = listOf .select ops ++ listOf .condition ops ++ listOf .having ops ++
      listOf .order ops ∧
    (run ops).length = (run ops).flatten.length ∧
    ((run ops).isEmpty = true ↔ (run ops).length = 0) ∧
    ∀ others, (run ops == run others) = true ↔
      ∀ c, SameValues (listOf c ops) (listOf c others) := by
  have hcompact := compact_run ops
  refine ⟨hcompact, fun c => ⟨get_run ops c, ?_⟩, ?_, length_eq_length_flatten _,
    hcompact.isEmpty_iff, fun others => ?_⟩
  · refine Prod.ext (get_run ops c) ?_
    rw [run, run, List.foldl_append]
    rfl
  · simp only [flatten, get_run]
  · rw [hcompact.beq_iff (compact_run others)]
    simp only [get_run]

/-- A not-a-number is not equal to itself, and neither are bindings with it. -/
example : (run [.add .select (.float ⟨0x7FF8000000000000⟩)] ==
    run [.add .select (.float ⟨0x7FF8000000000000⟩)]) = false := by
  decide

end Bindings

end SqlDialect
