import SqlDialect.Proofs.Connections

/-!
# Formats that are tried once

A format is tried on a single timestamp before it is used (`Format.isValid`). That settles it for
all of them, whatever their year and their nanoseconds: the items of a format do not depend on what
is written in it, and an item that can be written for one timestamp can be written for any
(`Format.Item.text?_eq_none_iff`). So a format that passes is never left for the default format, and
of one that fails nothing is ever written (`Format.isValid_settles`).
-/

namespace SqlDialect

namespace Format

/-! ## Items that have no text -/

/-- An item has a text for every timestamp, unless it is invalid. -/
theorem Item.text?_eq_none_iff {t : Timestamp} {item : Item} :
    item.text? t = none ↔ item = .invalid := by
  cases item <;> simp [Item.text?]

/-- The text of items is that of each of them, one after another; a single invalid one leaves
nothing of it. -/
theorem textOf?_eq (t : Timestamp) (items : List Item) :
    textOf? t items =
      if .invalid ∈ items then none
      else some (items.flatMap fun item => (item.text? t).getD []) := by
  induction items with
  | nil => simp [textOf?]
  | cons item rest ih =>
    by_cases hitem : item = .invalid
    · subst hitem
      simp [textOf?, Item.text?]
    · have hmem : Item.invalid ∈ item :: rest ↔ Item.invalid ∈ rest := by
        simp [Ne.symm hitem]
      obtain ⟨text, htext⟩ :=
        Option.ne_none_iff_exists'.1 (mt (Item.text?_eq_none_iff (t := t)).1 hitem)
      simp only [textOf?, ih, htext, hmem, List.flatMap_cons]
      by_cases hrest : Item.invalid ∈ rest <;> simp [hrest]

/-- A timestamp cannot be written in a format exactly if an item of the format is invalid. -/
theorem format?_eq_none_iff {format : String} {t : Timestamp} :
    t.format? format = none ↔ .invalid ∈ items format.toList := by
  rw [Timestamp.format?, Option.map_eq_none_iff, textOf?_eq]
  by_cases h : Item.invalid ∈ items format.toList <;> simp [h]

/-- The sample stands for every timestamp. -/
theorem isValid_iff {format : String} (t : Timestamp) :
    isValid format = true ↔ t.format? format ≠ none := by
  rw [isValid, Option.isSome_iff_ne_none, Ne, Ne, format?_eq_none_iff, format?_eq_none_iff]

theorem isValid_default : isValid default = true := by decide +kernel

/-! ## Writing timestamps -/

/-- A valid format is the one that is used. -/
theorem format?_of_isValid {format : String} (h : isValid format = true) (t : Timestamp) :
    t.format? format = some (write format t) := by
  obtain ⟨text, htext⟩ := Option.ne_none_iff_exists'.1 ((isValid_iff t).1 h)
  rw [write, htext, Option.getD_some]

/-- In place of a format that is not valid, the default format is used. -/
theorem format?_of_not_isValid {format : String} (h : isValid format = false) (t : Timestamp) :
    t.format? format = none ∧ t.format? default = some (write format t) := by
  have hnone : t.format? format = none := by
    rw [← Option.not_isSome_iff_eq_none, Option.isSome_iff_ne_none, ← isValid_iff t, h]
    exact Bool.false_ne_true
  obtain ⟨text, htext⟩ := Option.ne_none_iff_exists'.1 ((isValid_iff t).1 isValid_default)
  rw [write, hnone, htext]
  exact ⟨rfl, rfl⟩

/-- **Trying a format on one timestamp settles it for all of them.** If the sample can be written in
a format, then every timestamp can, and every dialect with that format writes it so. If the sample
cannot be written, no timestamp can, and every dialect with that format writes the timestamp in the
default format and nothing else. -/
theorem isValid_settles (format : String) :
    (isValid format = true → ∀ t : Timestamp, ∃ text, t.format? format = some text ∧
      ∀ d : Dialect, d.timestampFormat = format → d.writeTimestamp t = text) ∧
    (isValid format = false → ∀ t : Timestamp, t.format? format = none ∧
      ∃ text, t.format? default = some text ∧
        ∀ d : Dialect, d.timestampFormat = format → d.writeTimestamp t = text) := by
  constructor
  · intro hvalid t
    refine ⟨write format t, format?_of_isValid hvalid t, ?_⟩
    rintro d rfl
    rfl
  · intro hinvalid t
    obtain ⟨hnone, hdefault⟩ := format?_of_not_isValid hinvalid t
    refine ⟨hnone, write format t, hdefault, ?_⟩
    rintro d rfl
    rfl

/-- A leap second at the end of a year before the first. -/
def earlyLeapSecond : Timestamp := (Timestamp.ofNumbers? (-44) 12 31 23 59 59 1500000000).get rfl

theorem isValid_settles_earlyLeapSecond :
    isValid "%-Y %j %S%.f" = true ∧ isValid "%Y-%Q" = false ∧
    (∃ text, earlyLeapSecond.format? "%-Y %j %S%.f" = some text ∧ text = "-44 366 60.500" ∧
      ∀ d : Dialect, d.timestampFormat = "%-Y %j %S%.f" →
        d.writeTimestamp earlyLeapSecond = text) ∧
    earlyLeapSecond.format? "%Y-%Q" = none ∧
    ∃ text, earlyLeapSecond.format? default = some text ∧ text = "-0044-12-31 23:59:60" ∧
      ∀ d : Dialect, d.timestampFormat = "%Y-%Q" → d.writeTimestamp earlyLeapSecond = text := by
  have hvalid : isValid "%-Y %j %S%.f" = true := by decide +kernel
  have hinvalid : isValid "%Y-%Q" = false := by decide +kernel
  have htext : earlyLeapSecond.format? "%-Y %j %S%.f" = some "-44 366 60.500" := by decide +kernel
  have hdefault : earlyLeapSecond.format? default = some "-0044-12-31 23:59:60" := by
    decide +kernel
  obtain ⟨text, hformat, hwritten⟩ := (isValid_settles "%-Y %j %S%.f").1 hvalid earlyLeapSecond
  obtain rfl := Option.some.inj (htext.symm.trans hformat)
  obtain ⟨hnone, other, hother, hfallback⟩ :=
    (isValid_settles "%Y-%Q").2 hinvalid earlyLeapSecond
  obtain rfl := Option.some.inj (hdefault.symm.trans hother)
  exact ⟨hvalid, hinvalid, ⟨_, hformat, rfl, hwritten⟩, hnone, _, hother, rfl, hfallback⟩

end Format

/-- A connection that can be reached writes every timestamp in its own format. -/
theorem Db2.Connection.Reached.format?_timestampFormat {c : Db2.Connection} (h : c.Reached)
    (t : Timestamp) : t.format? c.timestampFormat = some (c.dialect.writeTimestamp t) := by
  have hvalid : Format.isValid c.timestampFormat = true := by
    rw [Db2.Connection.timestampFormat]
    cases hformat : c.settings.dateFormat with
    | none => exact Format.isValid_default
    | some format => exact h.consistent.dateFormat_valid format hformat
  exact Format.format?_of_isValid hvalid t

end SqlDialect
