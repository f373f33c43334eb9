import SqlDialect.Db2.Dialect

/-!
# Connections that have been changed

A connection keeps its cast pattern twice, as a written setting and as the policy in use, and its
date format is looked at when it is opened and again whenever it is changed. `Reached` are the
connections that opening and changing lead to, in whatever order and whether or not a change is
refused on the way. The two sides agree in all of them (`Consistent`), and agreement is all that
opening asks for: the settings of such a connection open the same connection again.
-/

namespace SqlDialect.Db2

/-! ## What opening asks of settings -/

namespace CastPolicy

theorem ofSource?_source (p : CastPolicy) : ofSource? p.source = some p := by
  unfold ofSource?
  split
  · next pattern h => exact congrArg some (ext_source rfl)
  · next h => exact absurd (p.parses.symm.trans h) nofun

theorem source_of_ofSource? {source : String} {p : CastPolicy} (h : ofSource? source = some p) :
    p.source = source := by
  unfold ofSource? at h
  split at h
  · exact (Option.some.inj h) ▸ rfl
  · exact absurd h nofun

theorem read_eq_ok_iff {source : String} {p : CastPolicy} :
    read source = .ok p ↔ p.source = source := by
  unfold read
  constructor
  · intro h
    split at h
    · next policy hpolicy => exact Except.ok.inj h ▸ source_of_ofSource? hpolicy
    · exact absurd h nofun
  · rintro rfl
    rw [ofSource?_source]

end CastPolicy

namespace Settings

theorem validate_eq_ok_iff {s : Settings} :
    s.validate = .ok () ↔ ∀ format ∈ s.dateFormat, Format.isValid format = true := by
  unfold validate
  cases s.dateFormat with
  | none => simp
  | some format => by_cases h : Format.isValid format <;> simp [h]

theorem castPolicy_eq_ok_iff {s : Settings} {p : CastPolicy} :
    s.castPolicy = .ok p ↔ p.source = s.castPattern.getD CastPolicy.temporalSource := by
  unfold castPolicy
  cases s.castPattern with
  | none =>
    constructor
    · intro h
      exact Except.ok.inj h ▸ rfl
    · intro h
      exact congrArg Except.ok (CastPolicy.ext_source h).symm
  | some source => exact CastPolicy.read_eq_ok_iff

end Settings

namespace Connection

/-! ## Connections that agree with their settings -/

/-- The date format of the settings can be used, and the policy in use is the one they ask for. -/
structure Consistent (c : Connection) : Prop where
  dateFormat_valid : ∀ format ∈ c.settings.dateFormat, Format.isValid format = true
  source_eq : c.castPolicy.source = c.settings.castPattern.getD CastPolicy.temporalSource

/-- **What settings open** is the connection that has them and agrees with them, if there is one. -/
theorem open?_eq_ok_iff {s : Settings} {c : Connection} :
    open? s = .ok c ↔ c.settings = s ∧ c.Consistent := by
  constructor
  · intro h
    unfold open? at h
    split at h
    · exact absurd h nofun
    · next hvalid =>
      split at h
      · exact absurd h nofun
      · next policy hpolicy =>
        obtain rfl := Except.ok.inj h
        exact ⟨rfl, Settings.validate_eq_ok_iff.1 hvalid,
          Settings.castPolicy_eq_ok_iff.1 hpolicy⟩
  · rintro ⟨rfl, hformat, hsource⟩
    rw [open?, Settings.validate_eq_ok_iff.2 hformat, Settings.castPolicy_eq_ok_iff.2 hsource]

/-! ## Changes -/

/-- A change of a setting. -/
inductive Change
  | dateFormat (format : String)
  | offsetCompatibility (on : Bool)
  | castPolicy (policy : CastPolicy)

/-- Make a change on the connection that is there. A date format is looked at before it is set. -/
def Change.make : Change → ExceptT Error (StateM Connection) Unit
  | .dateFormat format => do
    unless Format.isValid format do
      throw (.invalidDateFormat format)
    modify fun c => { c with settings := { c.settings with dateFormat := some format } }
  | .offsetCompatibility on => modify fun c => c.setOffsetCompatibility on
  | .castPolicy policy => modify fun c => c.withCastPolicy policy

/-- What a change answers, and the connection that is there afterwards. -/
def perform (c : Connection) (change : Change) : Except Error Unit × Connection :=
  (change.make.run.run c).run

theorem perform_dateFormat_of_valid {format : String} (h : Format.isValid format = true)
    (c : Connection) :
    c.perform (.dateFormat format) =
      (.ok (), { c with settings := { c.settings with dateFormat := some format } }) := by
  rw [perform, Change.make, h]
  rfl

theorem perform_dateFormat_of_not_valid {format : String} (h : ¬ Format.isValid format = true)
    (c : Connection) :
    c.perform (.dateFormat format) = (.error (.invalidDateFormat format), c) := by
  rw [perform, Change.make, Bool.eq_false_iff.2 h]
  rfl

/-- Setting the date format in place leaves what setting it gives, and else what was there. -/
theorem perform_dateFormat (c : Connection) (format : String) :
    c.perform (.dateFormat format) =
      match c.setDateFormat format with
      | .ok changed => (.ok (), changed)
      | .error e => (.error e, c) := by
  by_cases h : Format.isValid format = true
  · rw [perform_dateFormat_of_valid h, setDateFormat, if_pos h]
  · rw [perform_dateFormat_of_not_valid h, setDateFormat, if_neg h]

/-- A refused change is that to a date format that cannot be used, and it changes nothing. -/
theorem eq_of_perform_eq_error {c : Connection} {change : Change} {e : Error}
    (h : (c.perform change).1 = .error e) :
    (c.perform change).2 = c ∧ ∃ format, change = .dateFormat format ∧
      Format.isValid format = false ∧ e = .invalidDateFormat format := by
  cases change with
  | dateFormat format =>
    by_cases hvalid : Format.isValid format = true
    · rw [perform_dateFormat_of_valid hvalid] at h
      exact absurd h nofun
    · rw [perform_dateFormat_of_not_valid hvalid] at h ⊢
      exact ⟨rfl, format, rfl, Bool.eq_false_iff.2 hvalid, (Except.error.inj h).symm⟩
  | offsetCompatibility on => exact absurd h nofun
  | castPolicy policy => exact absurd h nofun

theorem consistent_default : Consistent {} := ⟨nofun, rfl⟩

theorem Consistent.perform {c : Connection} (h : c.Consistent) (change : Change) :
    (c.perform change).2.Consistent := by
  cases change with
  | dateFormat format =>
    by_cases hvalid : Format.isValid format = true
    · rw [perform_dateFormat_of_valid hvalid]
      refine ⟨?_, h.source_eq⟩
      rintro _ ⟨⟩
      exact hvalid
    · rw [perform_dateFormat_of_not_valid hvalid]
      exact h
  | offsetCompatibility on => exact ⟨h.dateFormat_valid, h.source_eq⟩
  | castPolicy policy => exact ⟨h.dateFormat_valid, rfl⟩

/-! ## Connections that are reached -/

/-- The connections that come from the default one, or from one that settings open, by changes. -/
inductive Reached : Connection → Prop
  | default : Reached {}
  | opened {s : Settings} {c : Connection} (h : open? s = .ok c) : Reached c
  | changed {c : Connection} (h : Reached c) (change : Change) : Reached (c.perform change).2

namespace Reached

variable {c : Connection} (h : c.Reached)

include h

theorem consistent : c.Consistent := by
  induction h with
  | default => exact consistent_default
  | opened hopen => exact (open?_eq_ok_iff.1 hopen).2
  | changed _ change ih => exact ih.perform change

/-- The settings of a connection open the same connection again. -/
theorem open?_settings : open? c.settings = .ok c := open?_eq_ok_iff.2 ⟨rfl, h.consistent⟩

/-- **A connection is what its settings say**, however it was changed: its date format can be used,
its policy is the one that its settings name, a change that is refused leaves it as it is, and its
settings open a connection that writes every query as it does. -/
theorem consistent_and_reopens :
    c.Consistent ∧ (∀ change e, (c.perform change).1 = .error e → (c.perform change).2 = c) ∧
      ∃ reopened, open? c.settings = .ok reopened ∧
        ∀ q, reopened.statement q = c.statement q ∧
          reopened.existenceStatement q = c.existenceStatement q := by
  refine ⟨h.consistent, fun change e he => (eq_of_perform_eq_error he).1, c, h.open?_settings, ?_⟩
  exact fun q => ⟨rfl, rfl⟩

end Reached

/-- Nothing but agreement is kept: a connection that agrees with its settings can be reached. -/
theorem reached_iff_consistent {c : Connection} : c.Reached ↔ c.Consistent :=
  ⟨Reached.consistent, fun h => .opened (open?_eq_ok_iff.2 ⟨rfl, h⟩)⟩

/-- A connection whose policy is written down, whose date format was changed and then refused to be,
and that numbers no rows. -/
def daily : Connection :=
  let recast := (({} : Connection).perform (.castPolicy .temporal)).2
  let dated := (recast.perform (.dateFormat "%Y-%m-%d")).2
  let refused := (dated.perform (.dateFormat "%Y-%Q")).2
  (refused.perform (.offsetCompatibility false)).2

theorem settings_daily : daily.settings =
    { dateFormat := some "%Y-%m-%d", offsetCompatibility := false,
      castPattern := some CastPolicy.temporalSource } := by
  have hvalid : Format.isValid "%Y-%m-%d" = true := by decide +kernel
  have hrefused : ¬ Format.isValid "%Y-%Q" = true := by decide +kernel
  rw [daily, perform_dateFormat_of_valid hvalid, perform_dateFormat_of_not_valid hrefused]
  rfl

theorem Reached.consistent_and_reopens_daily :
    daily.Reached ∧ Format.isValid "%Y-%m-%d" = true ∧
    (∀ change e, (daily.perform change).1 = .error e → (daily.perform change).2 = daily) ∧
    ∃ reopened,
      open? { dateFormat := some "%Y-%m-%d", offsetCompatibility := false,
              castPattern := some CastPolicy.temporalSource } = .ok reopened ∧
        ∀ q, reopened.statement q = daily.statement q ∧
          reopened.existenceStatement q = daily.existenceStatement q := by
  have hreached : daily.Reached := (((Reached.default.changed _).changed _).changed _).changed _
  obtain ⟨hconsistent, hrefused, hreopens⟩ := hreached.consistent_and_reopens
  rw [settings_daily] at hreopens
  exact ⟨hreached, hconsistent.dateFormat_valid _ (settings_daily ▸ rfl), hrefused, hreopens⟩

end Connection

end SqlDialect.Db2
