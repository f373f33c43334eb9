import Mathlib.Data.String.Basic
import SqlDialect.Dialect
import SqlDialect.Proofs.Timestamps.Calendar

/-!
# The order of written timestamps

Timestamps in the default format can be compared as texts. From the year 0 to the year 9999 every
number in them has its width, so that they are of one length (`Timestamp.format?_default`), and the
greater numbers come first: the text of one is before that of another exactly if its second is
earlier (`Timestamp.defaultText_lt_defaultText_iff`). A leap second at the end of a minute is the
second 60 there; one within a minute has the text of the second after the one that it follows, and
is not told apart from it (`Dialect.prepare_leapSecondWithinMinute`).
-/

namespace SqlDialect

namespace Format

/-! ## Numbers of one width -/

/-- The last `width` decimal digits of a number. -/
def lastDigits : Nat → Nat → List Char
  | 0, _ => []
  | width + 1, n => lastDigits width (n / 10) ++ [Nat.digitChar (n % 10)]

@[simp] theorem length_lastDigits (width n : Nat) : (lastDigits width n).length = width := by
  induction width generalizing n with
  | zero => rfl
  | succ width ih => simp [lastDigits, ih]

theorem lastDigits_zero (width : Nat) : lastDigits width 0 = List.replicate width '0' := by
  induction width with
  | zero => rfl
  | succ width ih => simp [lastDigits, ih, List.replicate_succ']

/-- A number that is filled with zeros up to a width has as many digits. -/
theorem fillTo_zero {width n : Nat} (hwidth : 0 < width) (hn : n < 10 ^ width) :
    fillTo width '0' n = lastDigits width n := by
  unfold fillTo
  induction width generalizing n with
  | zero => exact absurd hwidth (by decide)
  | succ width ih =>
    rw [lastDigits]
    by_cases hdigit : n < 10
    · rw [Nat.toDigits_of_lt_base hdigit, Nat.div_eq_of_lt hdigit, Nat.mod_eq_of_lt hdigit,
        lastDigits_zero]
      rfl
    · have hrest : n / 10 < 10 ^ width := by rw [Nat.pow_succ] at hn; omega
      have hpos : 0 < width := by
        rcases width with _ | width
        · simp at hrest; omega
        · omega
      rw [← ih hpos hrest, Nat.toDigits_of_base_le (by decide) (by omega)]
      simp

theorem digitChar_lt_digitChar_iff {m n : Nat} (hm : m < 10) (hn : n < 10) :
    m.digitChar < n.digitChar ↔ m < n := by
  have hall : ∀ m < 10, ∀ n < 10, m.digitChar < n.digitChar ↔ m < n := by decide
  exact hall m hm n hn

theorem digitChar_inj {m n : Nat} (hm : m < 10) (hn : n < 10) :
    m.digitChar = n.digitChar ↔ m = n := by
  have hall : ∀ m < 10, ∀ n < 10, m.digitChar = n.digitChar ↔ m = n := by decide
  exact hall m hm n hn

/-- Texts that begin with numbers of one width are compared by these, and then by what follows. -/
theorem lastDigits_append_lt_iff {width m n : Nat} (hm : m < 10 ^ width) (hn : n < 10 ^ width)
    (rest more : List Char) :
    lastDigits width m ++ rest < lastDigits width n ++ more ↔ m < n ∨ m = n ∧ rest < more := by
  induction width generalizing m n rest more with
  | zero =>
    obtain rfl : m = 0 := Nat.lt_one_iff.1 hm
    obtain rfl : n = 0 := Nat.lt_one_iff.1 hn
    simp [lastDigits]
  | succ width ih =>
    rw [Nat.pow_succ] at hm hn
    rw [lastDigits, lastDigits, List.append_assoc, List.append_assoc,
      ih (by omega) (by omega), List.singleton_append, List.singleton_append,
      List.cons_lt_cons_iff, digitChar_lt_digitChar_iff (by omega) (by omega),
      digitChar_inj (by omega) (by omega)]
    by_cases hrest : rest < more
    · simp only [hrest, and_true]
      omega
    · simp only [hrest, and_false, or_false]
      omega

theorem lastDigits_lt_iff {width m n : Nat} (hm : m < 10 ^ width) (hn : n < 10 ^ width) :
    lastDigits width m < lastDigits width n ↔ m < n := by
  simpa using lastDigits_append_lt_iff hm hn [] []

theorem twoDigits_zero {n : Nat} (hn : n < 100) : twoDigits .zero n = lastDigits 2 n := by
  have hall : ∀ n < 100, twoDigits .zero (n : Nat) = lastDigits 2 n := by decide +kernel
  exact hall n hn

theorem yearText_zero {year : Int} (hfirst : 0 ≤ year) (hlast : year ≤ 9999) :
    yearText .zero year = lastDigits 4 year.toNat := by
  obtain ⟨n, rfl⟩ := Int.eq_ofNat_of_zero_le hfirst
  have hn : n < 10 ^ 4 := by omega
  rw [yearText, if_pos ⟨hfirst, hlast⟩, Int.toNat_natCast, ← fillTo_zero (by decide) hn]
  have hsign : ¬ (n : Int) < 0 := Int.not_lt.2 hfirst
  simp [signed, fillTo, hsign]

end Format

/-! ## The default format -/

theorem Date.day_le_thirtyOne (d : Date) : d.day ≤ 31 := by
  have hmonth : daysInMonth d.year d.month ≤ 31 := by
    simp only [daysInMonth]
    split_ifs <;> decide
  exact d.day_le.trans hmonth

theorem TimeOfDay.shownSecond_le (t : TimeOfDay) : t.shownSecond ≤ 60 := by
  have hsecond := t.second_lt
  have hnanosecond := t.nanosecond_lt
  simp only [shownSecond]
  omega

namespace Timestamp

open Format (lastDigits)

/-- Of the numbers of a timestamp, only the year can have more than two digits. -/
theorem numbers_lt (t : Timestamp) : t.date.month < 100 ∧ t.date.day < 100 ∧ t.time.hour < 100 ∧
    t.time.minute < 100 ∧ t.time.shownSecond < 100 := by
  have hmonth := t.date.month_le
  have hday := t.date.day_le_thirtyOne
  have hhour := t.time.hour_lt
  have hminute := t.time.minute_lt
  have hsecond := t.time.shownSecond_le
  omega

/-- The year is written with four digits and no sign. -/
def HasPlainYear (t : Timestamp) : Prop := 0 ≤ t.date.year ∧ t.date.year ≤ 9999

/-- The text of a timestamp in the default format. Between the marks each number has its width. -/
def defaultText (t : Timestamp) : List Char :=
  lastDigits 4 t.date.year.toNat ++ '-' :: (lastDigits 2 t.date.month ++ '-' ::
    (lastDigits 2 t.date.day ++ ' ' :: (lastDigits 2 t.time.hour ++ ':' ::
      (lastDigits 2 t.time.minute ++ ':' :: lastDigits 2 t.time.shownSecond))))

theorem length_defaultText (t : Timestamp) : t.defaultText.length = 19 := by
  simp [defaultText]

theorem format?_default {t : Timestamp} (h : t.HasPlainYear) :
    t.format? Format.default = some (String.ofList t.defaultText) := by
  have hitems : Format.items Format.default.toList =
      [.number .year .zero, .literal '-', .number .month .zero, .literal '-', .number .day .zero,
        .literal ' '] ++ Format.clockTime := by
    decide +kernel
  obtain ⟨hmonth, hday, hhour, hminute, hsecond⟩ := t.numbers_lt
  rw [format?, hitems]
  simp [Format.textOf?, Format.clockTime, Format.Item.text?, Format.Field.text,
    Format.yearText_zero h.1 h.2, Format.twoDigits_zero, hmonth, hday, hhour, hminute, hsecond,
    defaultText]

/-! ## The order of seconds -/

/-- The number of the minute, counted through all days. -/
def minuteNumber (t : Timestamp) : Int :=
  t.date.number * 1440 + t.time.hour * 60 + t.time.minute

/-- The second of a timestamp is before that of another. A leap second is taken for the second
after the one that it follows, which is the second 60 only at the end of a minute. -/
def SecondBefore (t u : Timestamp) : Prop :=
  t.minuteNumber < u.minuteNumber ∨
    t.minuteNumber = u.minuteNumber ∧ t.time.shownSecond < u.time.shownSecond

/-- Two timestamps are in one second, with leap seconds taken as in `SecondBefore`. -/
def SameSecond (t u : Timestamp) : Prop :=
  t.minuteNumber = u.minuteNumber ∧ t.time.shownSecond = u.time.shownSecond

/-- The second of a minute if every leap second is the second 60, whichever second it follows. -/
def countedSecond (t : Timestamp) : Nat :=
  if t.time.nanosecond < 1000000000 then t.time.second else 60

theorem secondBefore_iff {t u : Timestamp} :
    t.SecondBefore u ↔ t.date.number < u.date.number ∨ t.date.number = u.date.number ∧
      (t.time.hour < u.time.hour ∨ t.time.hour = u.time.hour ∧
        (t.time.minute < u.time.minute ∨ t.time.minute = u.time.minute ∧
          t.time.shownSecond < u.time.shownSecond)) := by
  have := t.time.hour_lt
  have := t.time.minute_lt
  have := u.time.hour_lt
  have := u.time.minute_lt
  simp only [SecondBefore, minuteNumber]
  omega

theorem defaultText_lt_defaultText_iff {t u : Timestamp} (ht : t.HasPlainYear)
    (hu : u.HasPlainYear) : t.defaultText < u.defaultText ↔ t.SecondBefore u := by
  obtain ⟨htfirst, htlast⟩ := ht
  obtain ⟨hufirst, hulast⟩ := hu
  obtain ⟨htmonth, htday, hthour, htminute, htsecond⟩ := t.numbers_lt
  obtain ⟨humonth, huday, huhour, huminute, husecond⟩ := u.numbers_lt
  rw [secondBefore_iff, Date.number_lt_number_iff, Date.number_inj, defaultText, defaultText]
  simp (disch := omega) only [Format.lastDigits_append_lt_iff, Format.lastDigits_lt_iff,
    List.cons_lt_cons_self]
  omega

theorem defaultText_inj {t u : Timestamp} (ht : t.HasPlainYear) (hu : u.HasPlainYear) :
    t.defaultText = u.defaultText ↔ t.SameSecond u := by
  have hbefore := defaultText_lt_defaultText_iff ht hu
  have hbehind := defaultText_lt_defaultText_iff hu ht
  rw [le_antisymm_iff, ← not_lt, ← not_lt, hbefore, hbehind]
  simp only [SecondBefore, SameSecond]
  omega

end Timestamp

/-! ## Bound timestamps -/

namespace Dialect

theorem getElem?_prepare_timestamp {d : Dialect} {values : List Value} {i : Nat} {t : Timestamp}
    (h : values[i]? = some (.timestamp t)) :
    (d.prepare values)[i]? = some (.text (d.writeTimestamp t)) := by
  simp [prepare, h]

theorem getElem?_prepare_of_ne {d : Dialect} {values : List Value} {i : Nat} {value : Value}
    (h : values[i]? = some value) (hvalue : ∀ t, value ≠ .timestamp t) :
    (d.prepare values)[i]? = some value := by
  cases value with
  | timestamp t => exact absurd rfl (hvalue t)
  | _ => simp [prepare, h]

theorem writeTimestamp_default {d : Dialect} (hd : d.timestampFormat = Format.default)
    {t : Timestamp} (h : t.HasPlainYear) :
    d.writeTimestamp t = String.ofList t.defaultText := by
  rw [writeTimestamp, Format.write, hd, Timestamp.format?_default h, Option.getD_some]

/-- **Timestamps bound in the default format are in the order of their seconds.** Of two timestamps
from the year 0 to the year 9999, wherever they are among the values, the texts that are bound
have one length; one text is before the other exactly if its second is the earlier one, and they are
equal exactly if it is one second. All other values stay what they are and where they are. -/
theorem prepare_ordered {d : Dialect} (hd : d.timestampFormat = Format.default)
    {values : List Value} {i j : Nat} {t u : Timestamp} (hi : values[i]? = some (.timestamp t))
    (hj : values[j]? = some (.timestamp u)) (ht : t.HasPlainYear)
    (hu : u.HasPlainYear) :
    (∃ text other : String, (d.prepare values)[i]? = some (.text text) ∧
      (d.prepare values)[j]? = some (.text other) ∧ text.length = other.length ∧
      (text < other ↔ t.SecondBefore u) ∧ (text = other ↔ t.SameSecond u)) ∧
    (d.prepare values).length = values.length ∧
    ∀ (k : Nat) (value : Value), values[k]? = some value → (∀ t, value ≠ .timestamp t) →
      (d.prepare values)[k]? = some value := by
  refine ⟨⟨d.writeTimestamp t, d.writeTimestamp u, getElem?_prepare_timestamp hi,
    getElem?_prepare_timestamp hj, ?_, ?_, ?_⟩, length_prepare d values,
    fun _ _ hk hvalue => getElem?_prepare_of_ne hk hvalue⟩
  · rw [writeTimestamp_default hd ht, writeTimestamp_default hd hu]
    simp [Timestamp.length_defaultText]
  · rw [writeTimestamp_default hd ht, writeTimestamp_default hd hu,
      String.lt_iff_toList_lt, String.toList_ofList, String.toList_ofList]
    exact Timestamp.defaultText_lt_defaultText_iff ht hu
  · rw [writeTimestamp_default hd ht, writeTimestamp_default hd hu,
      String.ofList_inj]
    exact Timestamp.defaultText_inj ht hu

/-- The beginning of the year 2017. -/
def newYear : Timestamp := (Timestamp.ofNumbers? 2017 1 1 0 0 0 0).get rfl

/-- Half a second before the beginning of the year 2017, in a leap second. -/
def beforeNewYear : Timestamp := (Timestamp.ofNumbers? 2016 12 31 23 59 59 1500000000).get rfl

theorem prepare_ordered_newYear :
    (generic "app_").timestampFormat = Format.default ∧
    newYear.HasPlainYear ∧ beforeNewYear.HasPlainYear ∧ beforeNewYear.SecondBefore newYear ∧
    ∃ text other : String,
      (generic "app_").prepare [.timestamp newYear, .int 7, .timestamp beforeNewYear] =
        [.text other, .int 7, .text text] ∧
      text.length = other.length ∧ text < other ∧ text ≠ other := by
  have hnewYear : newYear.HasPlainYear := ⟨by decide, by decide⟩
  have hbeforeNewYear : beforeNewYear.HasPlainYear := ⟨by decide, by decide⟩
  have hbefore : beforeNewYear.SecondBefore newYear := .inl (by decide)
  have hsame : ¬ beforeNewYear.SameSecond newYear := fun h => absurd h.1 (by decide)
  have hlast : ([.timestamp newYear, .int 7, .timestamp beforeNewYear] : List Value)[2]? =
      some (.timestamp beforeNewYear) := rfl
  have hfirst : ([.timestamp newYear, .int 7, .timestamp beforeNewYear] : List Value)[0]? =
      some (.timestamp newYear) := rfl
  obtain ⟨⟨text, other, htext, hother, hlength, hlt, heq⟩, -, -⟩ :=
    prepare_ordered (d := generic "app_") rfl hlast hfirst hbeforeNewYear hnewYear
  obtain rfl := Value.text.inj (Option.some.inj htext)
  obtain rfl := Value.text.inj (Option.some.inj hother)
  exact ⟨rfl, hnewYear, hbeforeNewYear, hbefore, _, _, rfl, hlength, hlt.2 hbefore,
    mt heq.1 hsame⟩

/-- The second 5 of a minute. -/
def ordinarySecond : Timestamp := (Timestamp.ofNumbers? 2016 12 31 23 56 5 0).get rfl

/-- A leap second behind the second 4 of the same minute. -/
def leapSecondWithinMinute : Timestamp :=
  (Timestamp.ofNumbers? 2016 12 31 23 56 4 1333333333).get rfl

/-- The beginning of the year 10000. -/
def fiveDigitYear : Timestamp := (Timestamp.ofNumbers? 10000 1 1 0 0 0 0).get rfl

/-- Texts are not in the order of the seconds if every leap second counts as the second 60 of its
minute: one within a minute has the text of an ordinary second, which would be before it. The other
timestamps among the values, of whatever year, become texts as well. -/
theorem prepare_leapSecondWithinMinute :
    (generic "app_").timestampFormat = Format.default ∧
    ordinarySecond.HasPlainYear ∧ leapSecondWithinMinute.HasPlainYear ∧
    ordinarySecond.minuteNumber = leapSecondWithinMinute.minuteNumber ∧
    ordinarySecond.countedSecond < leapSecondWithinMinute.countedSecond ∧
    (generic "app_").prepare
        [.timestamp ordinarySecond, .timestamp leapSecondWithinMinute, .timestamp fiveDigitYear] =
      [.text "2016-12-31 23:56:05", .text "2016-12-31 23:56:05",
        .text "+10000-01-01 00:00:00"] := by
  have hordinary : ordinarySecond.format? Format.default = some "2016-12-31 23:56:05" := by
    decide +kernel
  have hleap : leapSecondWithinMinute.format? Format.default = some "2016-12-31 23:56:05" := by
    decide +kernel
  have hfive : fiveDigitYear.format? Format.default = some "+10000-01-01 00:00:00" := by
    decide +kernel
  have hformat : (generic "app_").timestampFormat = Format.default := rfl
  refine ⟨hformat, ⟨by decide, by decide⟩, ⟨by decide, by decide⟩, rfl, by decide, ?_⟩
  simp only [prepare, List.map_cons, List.map_nil, writeTimestamp, Format.write, hformat,
    hordinary, hleap, hfive, Option.getD_some]

end Dialect

end SqlDialect
