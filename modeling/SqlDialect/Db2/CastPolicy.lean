import SqlDialect.Pattern.Reader

/-!
# Columns that are cast to text

Dates, times and timestamps have to be cast with `CHAR` before `UPPER` can be applied to them,
while the cast fails on large texts. Since the types of columns are not known, their names decide:
a `CastPolicy` is a pattern that is searched for in the name of a column.
-/

namespace SqlDialect.Db2

/-- A pattern for the names of columns that are cast. -/
structure CastPolicy where
  source : String
  pattern : Pattern
  parses : Pattern.parse? source = some pattern

namespace CastPolicy

/-- The policy of a written pattern, unless it is no pattern. -/
def ofSource? (source : String) : Option CastPolicy :=
  match h : Pattern.parse? source with
  | some pattern => some ⟨source, pattern, h⟩
  | none => none

/-- Whether a column with this name is cast. -/
def casts (p : CastPolicy) (name : String) : Bool := p.pattern.isIn name

/-! ## The default policy -/

/-- A small letter in either case. -/
def eitherCase (c : Char) : Pattern :=
  .set [(c.toNat - 32, c.toNat - 32), (c.toNat, c.toNat)]

/-- Names that end in `_at`, `_date` or `_time`, in any case. -/
def temporalSource : String := "(?i)(_at|_date|_time)$"

/-- An underscore, one of the three words behind it, and then the end of the name. -/
def temporalPattern : Pattern :=
  .seq [
    .capture (.seq [
      .literal ['_'],
      .alt [
        .seq (['a', 't'].map eitherCase),
        .seq (['d', 'a', 't', 'e'].map eitherCase),
        .seq (['t', 'i', 'm', 'e'].map eitherCase)]]),
    .look .textEnd]

theorem parse?_temporalSource : Pattern.parse? temporalSource = some temporalPattern := by
  decide +kernel

/-- The policy that casts the columns whose names end like those of times. -/
def temporal : CastPolicy := ⟨temporalSource, temporalPattern, parse?_temporalSource⟩

theorem ext_source {p q : CastPolicy} (h : p.source = q.source) : p = q := by
  obtain ⟨source, pattern, hp⟩ := p
  obtain ⟨source', pattern', hq⟩ := q
  subst h
  obtain rfl := Option.some.inj (hp.symm.trans hq)
  rfl

end CastPolicy

end SqlDialect.Db2
