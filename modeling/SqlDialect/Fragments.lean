/-!
# Fragments of a statement

The texts of the clauses of a `select`, each under the `Part` it is for. A dialect may replace some
of them before `concatenate` joins those that are not empty, in the order of the parts.

A fragment that is present and empty is told apart from one that is missing, but the joined text
does not show it.
-/

namespace SqlDialect

/-- A clause of a `select`, in the order in which clauses stand. -/
inductive Part
  | columns
  | source
  | joins
  | conditions
  | groups
  | havings
  | orders
  | limit
  | offset
  deriving DecidableEq, Repr

/-- All parts in the order in which they stand. -/
def Part.all : List Part :=
  [.columns, .source, .joins, .conditions, .groups, .havings, .orders, .limit, .offset]

/-- The texts of the clauses of a `select`. -/
structure Fragments where
  columns : Option String := none
  source : Option String := none
  joins : Option String := none
  conditions : Option String := none
  groups : Option String := none
  havings : Option String := none
  orders : Option String := none
  limit : Option String := none
  offset : Option String := none
  deriving DecidableEq, Repr

namespace Fragments

/-- No fragments. -/
def empty : Fragments := {}

/-- The fragment of a part. -/
def get? (f : Fragments) : Part → Option String
  | .columns => f.columns
  | .source => f.source
  | .joins => f.joins
  | .conditions => f.conditions
  | .groups => f.groups
  | .havings => f.havings
  | .orders => f.orders
  | .limit => f.limit
  | .offset => f.offset

/-- The fragments with another text, or none, for a part. -/
def put (f : Fragments) (p : Part) (text? : Option String) : Fragments :=
  match p with
  | .columns => { f with columns := text? }
  | .source => { f with source := text? }
  | .joins => { f with joins := text? }
  | .conditions => { f with conditions := text? }
  | .groups => { f with groups := text? }
  | .havings => { f with havings := text? }
  | .orders => { f with orders := text? }
  | .limit => { f with limit := text? }
  | .offset => { f with offset := text? }

/-- The fragments with a text for a part. -/
def insert (f : Fragments) (p : Part) (text : String) : Fragments := f.put p (some text)

/-- The fragments without that of a part. -/
def erase (f : Fragments) (p : Part) : Fragments := f.put p none

/-- The fragment of a part, and the fragments without it. -/
def remove (f : Fragments) (p : Part) : Option String × Fragments := (f.get? p, f.erase p)

/-- The parts with their fragments, in order. -/
def toList (f : Fragments) : List (Part × String) :=
  Part.all.filterMap fun p => (f.get? p).map fun text => (p, text)

/-- The fragments that are not empty, joined by single blanks. -/
def concatenate (f : Fragments) : String :=
  " ".intercalate ((f.toList.map Prod.snd).filter fun text => text != "")

/-! ## What the operations do to a part -/

@[simp] theorem get?_put (f : Fragments) (p q : Part) (text? : Option String) :
    (f.put p text?).get? q = if q = p then text? else f.get? q := by
  cases p <;> cases q <;> rfl

@[simp] theorem get?_empty (p : Part) : empty.get? p = none := by
  cases p <;> rfl

/-- Fragments that agree on every part are the same. -/
theorem ext_get? {f g : Fragments} (h : ∀ p, f.get? p = g.get? p) : f = g := by
  obtain ⟨_, _, _, _, _, _, _, _, _⟩ := f
  obtain ⟨_, _, _, _, _, _, _, _, _⟩ := g
  have h₁ := h .columns
  have h₂ := h .source
  have h₃ := h .joins
  have h₄ := h .conditions
  have h₅ := h .groups
  have h₆ := h .havings
  have h₇ := h .orders
  have h₈ := h .limit
  have h₉ := h .offset
  simp only [get?] at h₁ h₂ h₃ h₄ h₅ h₆ h₇ h₈ h₉
  subst h₁ h₂ h₃ h₄ h₅ h₆ h₇ h₈ h₉
  rfl

/-! ## What the joined text shows -/

/-- What a fragment adds to the joined text: nothing if it is missing or empty. -/
def shown (text? : Option String) : List String := text?.toList.filter fun text => text != ""

theorem map_snd_toList (f : Fragments) : f.toList.map Prod.snd = Part.all.filterMap f.get? := by
  rw [toList, List.map_filterMap]
  congr 1
  funext p
  cases f.get? p <;> rfl

/-- The texts of some parts that are not empty, part by part. -/
theorem filter_filterMap_eq (text? : Part → Option String) (parts : List Part) :
    (parts.filterMap text?).filter (fun text => text != "") =
      parts.flatMap fun p => shown (text? p) := by
  induction parts with
  | nil => rfl
  | cons p parts ih =>
    rw [List.filterMap_cons, List.flatMap_cons, ← ih]
    cases text? p with
    | none => rfl
    | some text => exact List.filter_append [text] _

theorem concatenate_eq (f : Fragments) :
    f.concatenate = " ".intercalate (Part.all.flatMap fun p => shown (f.get? p)) := by
  rw [concatenate, map_snd_toList, filter_filterMap_eq]

/-- Fragments that show the same for each part are joined to the same text. -/
theorem concatenate_congr {f g : Fragments} (h : ∀ p, shown (f.get? p) = shown (g.get? p)) :
    f.concatenate = g.concatenate := by
  simp only [concatenate_eq, h]

/-- A limit stands at the end, behind a blank, if there are columns and no offset is shown. -/
theorem concatenate_limit {f : Fragments} {text : String} (hcolumns : shown f.columns ≠ [])
    (hlimit : f.limit = some text) (htext : text ≠ "") (hoffset : shown f.offset = []) :
    f.concatenate = (f.erase .limit).concatenate ++ " " ++ text := by
  have hfront : ∀ g : Fragments, g.concatenate = " ".intercalate
      (shown g.columns ++ (shown g.source ++ shown g.joins ++ shown g.conditions ++
        shown g.groups ++ shown g.havings ++ shown g.orders) ++ (shown g.limit ++
          shown g.offset)) := by
    intro g
    simp [concatenate_eq, Part.all, get?]
  have hshown : shown (some text) = [text] := by simp [shown, htext]
  have hnone : shown none = [] := rfl
  rw [hfront f, hfront (f.erase .limit)]
  simp only [erase, put, hlimit, hoffset, hshown, hnone, List.append_nil]
  rw [String.intercalate_append_of_ne_nil (by simp [hcolumns]) (List.cons_ne_nil _ _),
    String.intercalate_singleton]

/-- The columns stand in front, and the source behind them, if neither is empty. -/
theorem concatenate_columns_source {f : Fragments} {columns source : String}
    (hcolumns : f.columns = some columns) (hsource : f.source = some source)
    (hcolumns_ne : columns ≠ "") (hsource_ne : source ≠ "") :
    ∃ rest, f.concatenate = columns ++ " " ++ source ++ rest := by
  have hfront : f.concatenate = " ".intercalate (columns :: source ::
      [.joins, .conditions, .groups, .havings, .orders, .limit, .offset].flatMap fun p =>
        shown (f.get? p)) := by
    simp [concatenate_eq, Part.all, get?, hcolumns, hsource, shown, hcolumns_ne, hsource_ne]
  rw [hfront, String.intercalate_cons_cons]
  cases [Part.joins, .conditions, .groups, .havings, .orders, .limit, .offset].flatMap fun p =>
      shown (f.get? p) with
  | nil => exact ⟨"", by rw [String.intercalate_singleton, String.append_empty]⟩
  | cons text texts =>
    refine ⟨" " ++ " ".intercalate (text :: texts), ?_⟩
    rw [String.intercalate_cons_cons]
    simp only [String.append_assoc]

end Fragments

end SqlDialect
