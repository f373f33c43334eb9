import SqlDialect.Timestamp.Basic

/-!
# Formats of timestamps

A format is a text with directives such as `%Y` or `%-d`, copied but for them. `Format.items` takes
a format apart into `Item`s; a directive that there is no rule for, one that is cut short, and one
that asks for a time zone become `Item.invalid`. `Timestamp.format?` writes the items one after
another and fails at the first invalid one, so that no part of a failed text is kept.

A number may be padded to its width with zeros or blanks (`Pad`); between `%` and the letter one of
`-`, `_` and `0` overrides the directive's own padding.
-/

namespace SqlDialect

namespace Format

/-! ## Items -/

/-- How a number is brought to its width. -/
inductive Pad
  | none
  | blank
  | zero
  deriving DecidableEq, Repr

/-- A quantity written as a number. -/
inductive Field
  | year
  | century
  | yearOfCentury
  | isoYear
  | isoYearOfCentury
  | quarter
  | month
  | day
  | weekFromSunday
  | weekFromMonday
  | isoWeek
  | weekdayFromSunday
  | weekdayFromMonday
  | ordinal
  | hour
  | hourOfTwelve
  | minute
  | second
  | nanosecond
  | secondsSinceEpoch
  deriving DecidableEq, Repr

/-- A quantity written as a word. -/
inductive Word
  | shortMonth
  | longMonth
  | shortWeekday
  | longWeekday
  | lowerHalfOfDay
  | upperHalfOfDay
  deriving DecidableEq, Repr

/-- How many digits a fraction of a second has. -/
inductive Places
  /-- The fewest of none, three, six and nine that lose nothing. -/
  | fewest
  | three
  | six
  | nine
  deriving DecidableEq, Repr

/-- A part of a format. -/
inductive Item
  | literal (c : Char)
  | number (field : Field) (pad : Pad)
  | word (word : Word)
  /-- The fraction of the second, behind a point if `point` is set. -/
  | fraction (places : Places) (point : Bool)
  | invalid
  deriving DecidableEq, Repr

/-! ## Reading a format -/

/-- The quantity that a letter stands for and its own padding. -/
def numberOf? : Char → Option (Field × Pad)
  | 'C' => some (.century, .zero)
  | 'G' => some (.isoYear, .zero)
  | 'H' => some (.hour, .zero)
  | 'I' => some (.hourOfTwelve, .zero)
  | 'M' => some (.minute, .zero)
  | 'S' => some (.second, .zero)
  | 'U' => some (.weekFromSunday, .zero)
  | 'V' => some (.isoWeek, .zero)
  | 'W' => some (.weekFromMonday, .zero)
  | 'Y' => some (.year, .zero)
  | 'd' => some (.day, .zero)
  | 'e' => some (.day, .blank)
  | 'f' => some (.nanosecond, .zero)
  | 'g' => some (.isoYearOfCentury, .zero)
  | 'j' => some (.ordinal, .zero)
  | 'k' => some (.hour, .blank)
  | 'l' => some (.hourOfTwelve, .blank)
  | 'm' => some (.month, .zero)
  | 'q' => some (.quarter, .none)
  | 's' => some (.secondsSinceEpoch, .none)
  | 'u' => some (.weekdayFromMonday, .none)
  | 'w' => some (.weekdayFromSunday, .none)
  | 'y' => some (.yearOfCentury, .zero)
  | _ => none

/-- Month, day and year of the century between slashes. -/
def slashedDate : List Item :=
  [.number .month .zero, .literal '/', .number .day .zero, .literal '/',
    .number .yearOfCentury .zero]

/-- Hour, minute and second between colons. -/
def clockTime : List Item :=
  [.number .hour .zero, .literal ':', .number .minute .zero, .literal ':', .number .second .zero]

/-- The items that a letter stands for when it is not padded. -/
def directive (c : Char) : List Item :=
  match numberOf? c with
  | some (field, pad) => [.number field pad]
  | none =>
    match c with
    | 'A' => [.word .longWeekday]
    | 'B' => [.word .longMonth]
    | 'D' => slashedDate
    | 'F' =>
      [.number .year .zero, .literal '-', .number .month .zero, .literal '-', .number .day .zero]
    | 'P' => [.word .lowerHalfOfDay]
    | 'R' => [.number .hour .zero, .literal ':', .number .minute .zero]
    | 'T' => clockTime
    | 'X' => clockTime
    | 'a' => [.word .shortWeekday]
    | 'b' => [.word .shortMonth]
    | 'c' =>
      [.word .shortWeekday, .literal ' ', .word .shortMonth, .literal ' ', .number .day .blank,
        .literal ' '] ++ clockTime ++ [.literal ' ', .number .year .zero]
    | 'h' => [.word .shortMonth]
    | 'n' => [.literal '\n']
    | 'p' => [.word .upperHalfOfDay]
    | 'r' =>
      [.number .hourOfTwelve .zero, .literal ':', .number .minute .zero, .literal ':',
        .number .second .zero, .literal ' ', .word .upperHalfOfDay]
    | 't' => [.literal '\t']
    | 'v' =>
      [.number .day .blank, .literal '-', .word .shortMonth, .literal '-', .number .year .zero]
    | 'x' => slashedDate
    | '%' => [.literal '%']
    | _ => [.invalid]

/-- The item of a letter whose padding is overridden; only numbers can be padded. -/
def padded (pad : Pad) (c : Char) : Item :=
  match numberOf? c with
  | some (field, _) => .number field pad
  | none => .invalid

/-- The items of a format. -/
def items : List Char → List Item
  | [] => []
  | '%' :: '-' :: c :: rest => padded .none c :: items rest
  | '%' :: '_' :: c :: rest => padded .blank c :: items rest
  | '%' :: '0' :: c :: rest => padded .zero c :: items rest
  | '%' :: '.' :: 'f' :: rest => .fraction .fewest true :: items rest
  | '%' :: '.' :: '3' :: 'f' :: rest => .fraction .three true :: items rest
  | '%' :: '.' :: '6' :: 'f' :: rest => .fraction .six true :: items rest
  | '%' :: '.' :: '9' :: 'f' :: rest => .fraction .nine true :: items rest
  | '%' :: '3' :: 'f' :: rest => .fraction .three false :: items rest
  | '%' :: '6' :: 'f' :: rest => .fraction .six false :: items rest
  | '%' :: '9' :: 'f' :: rest => .fraction .nine false :: items rest
  | '%' :: c :: rest => directive c ++ items rest
  | ['%'] => [.invalid]
  | c :: rest => .literal c :: items rest

/-! ## Writing an item -/

/-- The decimal digits of `n`, with `fill` before them up to `width` characters. -/
def fillTo (width : Nat) (fill : Char) (n : Nat) : List Char :=
  let digits := Nat.toDigits 10 n
  List.replicate (width - digits.length) fill ++ digits

/-- A number without a sign, padded to `width`. -/
def unsigned (pad : Pad) (width : Nat) (n : Nat) : List Char :=
  match pad with
  | .none => Nat.toDigits 10 n
  | .blank => fillTo width ' ' n
  | .zero => fillTo width '0' n

/-- A number with its sign, which counts as one of the `width` characters. A plus sign is written
only if `plus` is set. -/
def signed (pad : Pad) (width : Nat) (plus : Bool) (n : Int) : List Char :=
  let sign := if n < 0 then ['-'] else if plus then ['+'] else []
  let digits := Nat.toDigits 10 n.natAbs
  let missing := width - sign.length - digits.length
  match pad with
  | .none => sign ++ digits
  | .blank => List.replicate missing ' ' ++ sign ++ digits
  | .zero => sign ++ List.replicate missing '0' ++ digits

/-- A year: four characters wide, and five with a sign from the year 10000 on and before the
year 0. -/
def yearText (pad : Pad) (year : Int) : List Char :=
  if 0 ≤ year ∧ year ≤ 9999 then signed pad 4 false year else signed pad 5 true year

/-- Two digits. The number wraps at 256, and a first digit of ten or more is the character that
many places after `0`. -/
def twoDigits (pad : Pad) (n : Int) : List Char :=
  let byte := (n % 256).toNat
  let tens := Char.ofNat ('0'.toNat + byte / 10)
  let ones := Char.ofNat ('0'.toNat + byte % 10)
  if byte / 10 = 0 then
    match pad with
    | .none => [ones]
    | .blank => [' ', ones]
    | .zero => ['0', ones]
  else [tens, ones]

/-- A number field of a timestamp. -/
def Field.text (pad : Pad) (t : Timestamp) : Field → List Char
  | .year => yearText pad t.date.year
  | .century => twoDigits pad (t.date.year / 100)
  | .yearOfCentury => twoDigits pad (t.date.year % 100)
  | .isoYear => yearText pad t.date.isoYear
  | .isoYearOfCentury => twoDigits pad (t.date.isoYear % 100)
  | .quarter => unsigned .none 1 t.date.quarter
  | .month => twoDigits pad t.date.month
  | .day => twoDigits pad t.date.day
  | .weekFromSunday => twoDigits pad t.date.weekFromSunday
  | .weekFromMonday => twoDigits pad t.date.weekFromMonday
  | .isoWeek => twoDigits pad t.date.isoWeek
  | .weekdayFromSunday => unsigned .none 1 t.date.daysSinceSunday
  | .weekdayFromMonday => unsigned .none 1 (t.date.daysSinceMonday + 1)
  | .ordinal => unsigned pad 3 t.date.ordinal
  | .hour => twoDigits pad t.time.hour
  | .hourOfTwelve => twoDigits pad t.time.hourOfTwelve
  | .minute => twoDigits pad t.time.minute
  | .second => twoDigits pad t.time.shownSecond
  | .nanosecond => unsigned pad 9 t.time.fraction
  | .secondsSinceEpoch => signed pad 9 false t.secondsSinceEpoch

/-- The months, abbreviated. -/
def shortMonths : List String :=
  ["Jan", "Feb", "Mar", "Apr", "May", "Jun", "Jul", "Aug", "Sep", "Oct", "Nov", "Dec"]

/-- The months, in full. -/
def longMonths : List String :=
  ["January", "February", "March", "April", "May", "June", "July", "August", "September",
    "October", "November", "December"]

/-- The weekdays from Monday on, abbreviated. -/
def shortWeekdays : List String := ["Mon", "Tue", "Wed", "Thu", "Fri", "Sat", "Sun"]

/-- The weekdays from Monday on, in full. -/
def longWeekdays : List String :=
  ["Monday", "Tuesday", "Wednesday", "Thursday", "Friday", "Saturday", "Sunday"]

/-- A word field of a timestamp. -/
def Word.text (t : Timestamp) : Word → String
  | .shortMonth => shortMonths.getD (t.date.month - 1) ""
  | .longMonth => longMonths.getD (t.date.month - 1) ""
  | .shortWeekday => shortWeekdays.getD t.date.daysSinceMonday ""
  | .longWeekday => longWeekdays.getD t.date.daysSinceMonday ""
  | .lowerHalfOfDay => if t.time.hour < 12 then "am" else "pm"
  | .upperHalfOfDay => if t.time.hour < 12 then "AM" else "PM"

/-- The digits of a fraction given in nanoseconds; what they do not reach is cut off. -/
def Places.digits (nanoseconds : Nat) : Places → List Char
  | .fewest =>
    if nanoseconds = 0 then []
    else if nanoseconds % 1000000 = 0 then fillTo 3 '0' (nanoseconds / 1000000)
    else if nanoseconds % 1000 = 0 then fillTo 6 '0' (nanoseconds / 1000)
    else fillTo 9 '0' nanoseconds
  | .three => fillTo 3 '0' (nanoseconds / 1000000)
  | .six => fillTo 6 '0' (nanoseconds / 1000)
  | .nine => fillTo 9 '0' nanoseconds

/-- The text of an item, unless it is invalid. -/
def Item.text? (t : Timestamp) : Item → Option (List Char)
  | .literal c => some [c]
  | .number field pad => some (field.text pad t)
  | .word w => some (w.text t).toList
  | .fraction places point =>
    let digits := places.digits t.time.fraction
    some (if point && !digits.isEmpty then '.' :: digits else digits)
  | .invalid => none

/-- The texts of items one after another, unless one is invalid. -/
def textOf? (t : Timestamp) : List Item → Option (List Char)
  | [] => some []
  | item :: rest =>
    match item.text? t, textOf? t rest with
    | some text, some others => some (text ++ others)
    | _, _ => none

end Format

/-! ## Formatting -/

/-- The timestamp in a format, unless the format holds an invalid directive. -/
def Timestamp.format? (format : String) (t : Timestamp) : Option String :=
  (Format.textOf? t (Format.items format.toList)).map String.ofList

namespace Format

/-- The format of a dialect that has no other: date and time to the second, with a blank
between. -/
def default : String := "%Y-%m-%d %H:%M:%S"

/-- The timestamp on which a format is tried, the beginning of the year 2000. -/
def sample : Timestamp where
  date := ⟨2000, 1, 1, by decide, by decide, by decide, by decide⟩
  time := ⟨0, 0, 0, 0, by decide, by decide, by decide, by decide⟩

/-- Whether a format can be used: the sample can be written in it. -/
def isValid (format : String) : Bool := (sample.format? format).isSome

/-- The timestamp in a format, or in the default format if that one is invalid. -/
def write (format : String) (t : Timestamp) : String :=
  (t.format? format).getD ((t.format? default).getD "")

end Format

end SqlDialect
