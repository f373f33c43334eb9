import Mathlib.Data.List.Basic
import SqlDialect.Fragments

/-!
# Runs of operations on fragments

Fragments that start empty are inserted and removed, in any order and any number of times
(`Fragments.Operation`). What a run leaves for a part is what the last operation on this part left
there (`Fragments.lastText?`), however the operations on the parts are mixed. So the joined text
hangs on these last texts only: it joins those that are not empty in the order of the parts, and an
empty one is as good as none (`Fragments.run_joins_last_texts`).
-/

namespace SqlDialect.Fragments

/-! ## Operations -/

/-- A change of the fragments. -/
inductive Operation
  | insert (p : Part) (text : String)
  | remove (p : Part)

namespace Operation

/-- The fragments after a change. -/
def act : Operation → Fragments → Fragments
  | .insert p text, f => f.insert p text
  | .remove p, f => (f.remove p).2

/-- The part that a change is for. -/
def part : Operation → Part
  | .insert p _ => p
  | .remove p => p

/-- What a change leaves for its part. -/
def text? : Operation → Option String
  | .insert _ text => some text
  | .remove _ => none

theorem get?_act (o : Operation) (f : Fragments) (p : Part) :
    (o.act f).get? p = if p = o.part then o.text? else f.get? p := by
  cases o with
  | insert q text => exact get?_put f q p (some text)
  | remove q => exact get?_put f q p none

end Operation

/-! ## Runs -/

/-- The fragments after some changes, one after another, that start from none. -/
def run (ops : List Operation) : Fragments := ops.foldl (fun f o => o.act f) empty

/-- What the last change of a part leaves there; nothing if there is no such change. -/
def lastText? (ops : List Operation) (p : Part) : Option String :=
  (ops.reverse.find? fun o => p = o.part).bind Operation.text?

theorem run_concat (ops : List Operation) (o : Operation) : run (ops ++ [o]) = o.act (run ops) := by
  simp only [run, List.foldl_append, List.foldl_cons, List.foldl_nil]

theorem lastText?_concat (ops : List Operation) (o : Operation) (p : Part) :
    lastText? (ops ++ [o]) p = if p = o.part then o.text? else lastText? ops p := by
  unfold lastText?
  rw [List.reverse_append, List.reverse_singleton, List.singleton_append, List.find?_cons]
  by_cases h : p = o.part <;> simp [h]

/-- **A run leaves for each part what the last change of the part left there.** -/
theorem get?_run (ops : List Operation) (p : Part) : (run ops).get? p = lastText? ops p := by
  rw [← List.reverse_reverse ops]
  induction ops.reverse with
  | nil => exact get?_empty p
  | cons o before ih => rw [List.reverse_cons, run_concat, lastText?_concat, o.get?_act, ih]

/-! ## The joined text -/

/-- The texts of some parts that are not empty, joined by single blanks. -/
def joined (parts : List Part) (text? : Part → Option String) : String :=
  " ".intercalate ((parts.filterMap text?).filter fun text => text != "")

theorem concatenate_run (ops : List Operation) :
    (run ops).concatenate = joined Part.all (lastText? ops) := by
  have hget : (run ops).get? = lastText? ops := funext (get?_run ops)
  rw [concatenate, map_snd_toList, hget, joined]

/-- A part that shows nothing can be left out. -/
theorem joined_filter {text? : Part → Option String} {p : Part} (hp : shown (text? p) = [])
    (parts : List Part) : joined parts text? = joined (parts.filter fun q => q ≠ p) text? := by
  rw [joined, joined, filter_filterMap_eq, filter_filterMap_eq]
  congr 1
  induction parts with
  | nil => rfl
  | cons q parts ih =>
    by_cases h : q = p <;> simp_all

/-- What the last change left for other parts stays when one part is changed. -/
theorem joined_others (ops : List Operation) (o : Operation) (parts : List Part) :
    joined (parts.filter fun q => q ≠ o.part) (lastText? (ops ++ [o])) =
      joined (parts.filter fun q => q ≠ o.part) (lastText? ops) := by
  unfold joined
  congr 2
  refine List.filterMap_congr fun q hq => ?_
  have hne : q ≠ o.part := of_decide_eq_true (List.mem_filter.1 hq).2
  rw [lastText?_concat, if_neg hne]

/-- A missing text shows what an empty one shows. -/
theorem shown_congr {text? other? : Option String} (h : text?.getD "" = other?.getD "") :
    shown text? = shown other? := by
  cases text? <;> cases other? <;> simp_all [shown]

/-- A change that leaves nothing to show leaves the other parts as they were joined. -/
theorem concatenate_run_concat (ops : List Operation) {o : Operation} (ho : shown o.text? = []) :
    (run (ops ++ [o])).concatenate =
      joined (Part.all.filter fun q => q ≠ o.part) (lastText? ops) := by
  have hpart : shown (lastText? (ops ++ [o]) o.part) = [] := by
    rw [lastText?_concat, if_pos rfl, ho]
  rw [concatenate_run, joined_filter hpart, joined_others]

/-- **Only what was left last is joined**, whatever was inserted and removed before it and in
whatever order. The joined text has the texts that are not empty, between single blanks and in the
order of the parts. Two runs end alike exactly if they leave the same for each part, and are joined
alike even if one leaves an empty text where the other leaves none. Removing answers what is there.
And a part that is removed, or that gets or has an empty text, is joined as if there were only the
other parts. -/
theorem run_joins_last_texts (ops : List Operation) :
    (run ops).concatenate = joined
      [.columns, .source, .joins, .conditions, .groups, .havings, .orders, .limit, .offset]
      (lastText? ops) ∧
    (∀ others, (run ops = run others ↔ ∀ p, lastText? ops p = lastText? others p) ∧
      ((∀ p, (lastText? ops p).getD "" = (lastText? others p).getD "") →
        (run ops).concatenate = (run others).concatenate)) ∧
    (∀ p, (run ops).get? p = lastText? ops p ∧
      (run ops).remove p = ((run ops).get? p, run (ops ++ [.remove p]))) ∧
    ∀ p,
      (run (ops ++ [.remove p])).concatenate =
        joined (Part.all.filter fun q => q ≠ p) (lastText? ops) ∧
      (run (ops ++ [.insert p ""])).concatenate =
        joined (Part.all.filter fun q => q ≠ p) (lastText? ops) ∧
      ((lastText? ops p).getD "" = "" →
        (run ops).concatenate = joined (Part.all.filter fun q => q ≠ p) (lastText? ops)) := by
  refine ⟨concatenate_run ops, fun others => ⟨⟨fun h p => ?_, fun h => ?_⟩, fun h => ?_⟩,
    fun p => ⟨get?_run ops p, ?_⟩, fun p => ⟨?_, ?_, fun hempty => ?_⟩⟩
  · rw [← get?_run, ← get?_run, h]
  · apply ext_get?
    intro p
    rw [get?_run, get?_run, h p]
  · apply concatenate_congr
    intro p
    rw [get?_run, get?_run, shown_congr (h p)]
  · rw [run_concat]
    rfl
  · exact concatenate_run_concat ops (o := .remove p) rfl
  · exact concatenate_run_concat ops (o := .insert p "") rfl
  · have hshown : shown (lastText? ops p) = shown none := shown_congr hempty
    rw [concatenate_run, joined_filter hshown]

/-- Columns that are put in again behind an order and an empty offset. -/
def renumbered : List Operation :=
  [.insert .offset "", .insert .columns "select *", .insert .orders "order by 1",
    .remove .columns, .insert .columns "select id"]

theorem run_joins_last_texts_renumbered :
    (∀ p, (lastText? renumbered p).getD "" =
      (lastText? [.insert .columns "select id", .insert .orders "order by 1"] p).getD "") ∧
    (lastText? renumbered .offset).getD "" = "" ∧
    (run renumbered).concatenate =
      (run [.insert .columns "select id", .insert .orders "order by 1"]).concatenate ∧
    (run renumbered).concatenate = "select id order by 1" := by
  have hsame : ∀ p, (lastText? renumbered p).getD "" =
      (lastText? [.insert .columns "select id", .insert .orders "order by 1"] p).getD "" := by
    intro p
    cases p <;> rfl
  have hempty : (lastText? renumbered .offset).getD "" = "" := rfl
  obtain ⟨-, halike, -, hothers⟩ := run_joins_last_texts renumbered
  refine ⟨hsame, hempty, (halike _).2 hsame, ?_⟩
  rw [(hothers .offset).2.2 hempty]
  decide

end SqlDialect.Fragments
