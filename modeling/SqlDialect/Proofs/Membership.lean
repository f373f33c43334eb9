import SqlDialect.Db2.Dialect

/-!
# Membership in a list of values

Whether a column has one of some values is written as a list behind the column, as a comparison with
the only value, or as a comparison of two digits if there is no value. What a text of this kind says
is read back from it (`MemberTest.read?`), and it is true, false or unknown for each value of the
column and each choice of values for its placeholders (`MemberTest.truthOf?`), NULL among them.
Which of the forms is written does not matter: the texts of DB2 and of standard SQL are true, false
and unknown together (`Db2.membership_same_truth`).
-/

namespace SqlDialect

/-! ## Three truth values -/

/-- What a condition says about values some of which may be NULL. -/
inductive Truth
  | yes
  | no
  | unknown
  deriving DecidableEq, Repr

namespace Truth

def ofBool (b : Bool) : Truth := if b then yes else no

def not : Truth → Truth
  | yes => no
  | no => yes
  | unknown => unknown

def or : Truth → Truth → Truth
  | yes, _ => yes
  | _, yes => yes
  | no, no => no
  | _, _ => unknown

@[simp] theorem or_no (t : Truth) : t.or no = t := by cases t <;> rfl

section Values

variable {V : Type} (equal : V → V → Bool)

/-- Two values compared by `=`. Of NULL nothing is known, not even that it is NULL. -/
def equals : Option V → Option V → Truth
  | some a, some b => ofBool (equal a b)
  | _, _ => unknown

/-- Two values compared by `<>`. -/
def differs : Option V → Option V → Truth
  | some a, some b => ofBool (!equal a b)
  | _, _ => unknown

/-- Whether one of the values is equal to the first one. -/
def isAmong (x : Option V) (values : List (Option V)) : Truth :=
  (values.map (equals equal x)).foldr or no

/-- Membership, negated if the flag is set. -/
def member (negated : Bool) (x : Option V) (values : List (Option V)) : Truth :=
  if negated then (isAmong equal x values).not else isAmong equal x values

theorem not_equals (x v : Option V) : (equals equal x v).not = differs equal x v := by
  cases x with
  | none => rfl
  | some a =>
    cases v with
    | none => rfl
    | some b =>
      change (ofBool (equal a b)).not = ofBool (!equal a b)
      cases equal a b <;> rfl

theorem isAmong_singleton (x v : Option V) : isAmong equal x [v] = equals equal x v :=
  or_no _

end Values

end Truth

/-! ## Tests and their texts -/

/-- A text that says whether a column has one of some values. -/
inductive MemberTest
  /-- Two digits that are compared, each 1 if its flag is set. -/
  | digits (first second : Bool)
  /-- The column compared with a value, by `<>` if the flag is set. -/
  | compare (differs : Bool)
  /-- A list of one value and so many more. -/
  | list (more : Nat) (negated : Bool)
  deriving DecidableEq, Repr

namespace MemberTest

def digit (one : Bool) : Char := if one then '1' else '0'

/-- The placeholders of a list, up to the parenthesis that closes it. -/
def marks : Nat → List Char
  | 0 => ['?', ')']
  | more + 1 => '?' :: ',' :: ' ' :: marks more

/-- What stands behind the column. -/
def tail : MemberTest → List Char
  | .digits _ _ => []
  | .compare false => [' ', '=', ' ', '?']
  | .compare true => [' ', '<', '>', ' ', '?']
  | .list more false => [' ', 'i', 'n', ' ', '('] ++ marks more
  | .list more true => [' ', 'n', 'o', 't', ' ', 'i', 'n', ' ', '('] ++ marks more

/-- The characters of a test of a column with the given characters. -/
def chars (column : List Char) : MemberTest → List Char
  | .digits first second => [digit first, ' ', '=', ' ', digit second]
  | t => column ++ t.tail

/-- The text of a test of a column that is written so. -/
def text (column : String) (t : MemberTest) : String := .ofList (t.chars column.toList)

/-- The number of values for which the text holds a placeholder. -/
def placeholders : MemberTest → Nat
  | .digits _ _ => 0
  | .compare _ => 1
  | .list more _ => more + 1

/-! ## Reading -/

def readDigit? : Char → Option Bool
  | '0' => some false
  | '1' => some true
  | _ => none

def readDigits? : List Char → Option MemberTest
  | [a, ' ', '=', ' ', b] => do return .digits (← readDigit? a) (← readDigit? b)
  | _ => none

def readMarks? : List Char → Option Nat
  | ['?', ')'] => some 0
  | '?' :: ',' :: ' ' :: rest => (readMarks? rest).map (· + 1)
  | _ => none

def readTail? : List Char → Option MemberTest
  | [' ', '=', ' ', '?'] => some (.compare false)
  | [' ', '<', '>', ' ', '?'] => some (.compare true)
  | ' ' :: 'i' :: 'n' :: ' ' :: '(' :: rest => (readMarks? rest).map (.list · false)
  | ' ' :: 'n' :: 'o' :: 't' :: ' ' :: 'i' :: 'n' :: ' ' :: '(' :: rest =>
    (readMarks? rest).map (.list · true)
  | _ => none

/-- The test that a text is, given the text of the column. -/
def read? (column text : String) : Option MemberTest :=
  (readDigits? text.toList).or
    (if column.toList.isPrefixOf text.toList then
      readTail? (text.toList.drop column.toList.length) else none)

theorem readMarks?_marks (more : Nat) : readMarks? (marks more) = some more := by
  induction more with
  | zero => rfl
  | succ more ih => simp only [marks, readMarks?, ih, Option.map_some]

theorem getLast?_marks (more : Nat) : (marks more).getLast? = some ')' := by
  induction more with
  | zero => rfl
  | succ more ih => simp [marks, List.getLast?_cons, ih]

/-- A text that does not end in a digit compares no digits. -/
theorem readDigits?_eq_none {text : List Char} {c : Char} (hlast : text.getLast? = some c)
    (hc : readDigit? c = none) : readDigits? text = none := by
  unfold readDigits?
  split
  · next a b =>
    obtain rfl : b = c := by simpa using hlast
    simp [hc]
  · rfl

theorem read?_append_tail {column : String} {t : MemberTest} {c : Char}
    (hlast : t.tail.getLast? = some c) (hc : readDigit? c = none)
    (hread : readTail? t.tail = some t) :
    read? column (.ofList (column.toList ++ t.tail)) = some t := by
  have hend : (column.toList ++ t.tail).getLast? = some c := by
    rw [List.getLast?_append, hlast, Option.some_or]
  have hprefix : column.toList.isPrefixOf (column.toList ++ t.tail) = true :=
    List.isPrefixOf_iff_prefix.2 (List.prefix_append _ _)
  rw [read?, String.toList_ofList, readDigits?_eq_none hend hc, Option.none_or, if_pos hprefix,
    List.drop_left, hread]

/-- A test is read back from its text, whatever the column. -/
theorem read?_text (column : String) (t : MemberTest) : read? column (t.text column) = some t := by
  cases t with
  | digits first second =>
    have hdigits : readDigits? [digit first, ' ', '=', ' ', digit second] =
        some (.digits first second) := by
      cases first <;> cases second <;> rfl
    rw [read?, text, chars, String.toList_ofList, hdigits, Option.some_or]
  | compare differs =>
    cases differs <;> exact read?_append_tail (c := '?') rfl rfl rfl
  | list more negated =>
    have hmarks := readMarks?_marks more
    cases negated
    · refine read?_append_tail (c := ')') ?_ rfl ?_
      · rw [tail, List.getLast?_append, getLast?_marks, Option.some_or]
      · exact congrArg (Option.map (MemberTest.list · false)) hmarks
    · refine read?_append_tail (c := ')') ?_ rfl ?_
      · rw [tail, List.getLast?_append, getLast?_marks, Option.some_or]
      · exact congrArg (Option.map (MemberTest.list · true)) hmarks

theorem count_marks (more : Nat) : (marks more).count '?' = more + 1 := by
  induction more with
  | zero => rfl
  | succ more ih => simp [marks, ih]

theorem count_tail (t : MemberTest) : t.tail.count '?' = t.placeholders := by
  cases t with
  | digits first second => rfl
  | compare differs => cases differs <;> rfl
  | list more negated => cases negated <;> simp [tail, placeholders, count_marks]

/-- The question marks of a text are the placeholders and those of the column, if it is written. -/
theorem count_text (column : String) (t : MemberTest) : (t.text column).toList.count '?' =
    (if t.placeholders = 0 then 0 else column.toList.count '?') + t.placeholders := by
  rw [text, String.toList_ofList]
  cases t with
  | digits first second => cases first <;> cases second <;> rfl
  | compare differs => simp [chars, count_tail, placeholders]
  | list more negated => simp [chars, count_tail, placeholders]

/-! ## Truth -/

section Truth

variable {V : Type} (equal : V → V → Bool) (x : Option V)

/-- What a test says for the value of the column, if there is a value for each placeholder. -/
def truth? : MemberTest → List (Option V) → Option Truth
  | .digits first second, [] => some (.ofBool (first == second))
  | .compare differs, [v] =>
    some (if differs then Truth.differs equal x v else Truth.equals equal x v)
  | .list more negated, values =>
    if values.length = more + 1 then some (Truth.member equal negated x values) else none
  | _, _ => none

/-- What a text about a column says for the value of the column and the values of the
placeholders. -/
def truthOf? (column text : String) (values : List (Option V)) : Option Truth :=
  (read? column text).bind fun t => t.truth? equal x values

end Truth

/-! ## The tests of the dialects -/

/-- The test that nothing, or everything, passes. -/
def ofNone (negated : Bool) : MemberTest := .digits negated true

/-- The test of standard SQL for so many values. -/
def standard (negated : Bool) : Nat → MemberTest
  | 0 => ofNone negated
  | more + 1 => .list more negated

/-- The test of DB2 for so many values. -/
def db2 (negated : Bool) : Nat → MemberTest
  | 1 => .compare negated
  | count => standard negated count

section Forms

variable {V : Type} (equal : V → V → Bool) (x : Option V) {values : List (Option V)}
  (negated : Bool) {count : Nat}

theorem truth?_standard (h : values.length = count) :
    (standard negated count).truth? equal x values =
      some (Truth.member equal negated x values) := by
  cases count with
  | zero =>
    obtain rfl := List.eq_nil_of_length_eq_zero h
    cases negated <;> rfl
  | succ more => exact if_pos h

theorem truth?_db2 (h : values.length = count) :
    (db2 negated count).truth? equal x values = some (Truth.member equal negated x values) := by
  rcases count with _ | _ | more
  · exact truth?_standard equal x negated h
  · -- One comparison is what a list of one value comes to, also when it is negated.
    obtain ⟨v, rfl⟩ := List.length_eq_one_iff.1 h
    rw [Truth.member, Truth.isAmong_singleton, Truth.not_equals]
    rfl
  · exact truth?_standard equal x negated h

theorem placeholders_standard (count : Nat) : (standard negated count).placeholders = count := by
  cases count <;> rfl

theorem placeholders_db2 (count : Nat) : (db2 negated count).placeholders = count := by
  rcases count with _ | _ | more <;> rfl

end Forms

end MemberTest

/-! ## What the dialects write -/

section Written

open MemberTest

variable {s : Spelling} (hoperand : s.operand = Spelling.questionMark)

include hoperand

theorem toList_operands (value : Value) (values : List Value) :
    (s.operands ((value :: values).map .literal)).toList ++ [')'] = marks values.length := by
  have hmark : ∀ value, s.operand (.literal value) = "?" := fun _ => by rw [hoperand]; rfl
  induction values generalizing value with
  | nil => simp [Spelling.operands, hmark, marks]
  | cons next rest ih =>
    have hrest := ih next
    simp only [Spelling.operands, List.map_cons, hmark] at hrest
    simp only [Spelling.operands, List.map_cons, hmark, String.intercalate_cons_cons,
      String.toList_append, List.length_cons, marks, ← hrest]
    rfl

/-- Standard SQL writes its test. -/
theorem inList_eq_standard (column : Column) (values : List Value) (negated : Bool) :
    s.inList column (values.map .literal) negated =
      (MemberTest.standard negated values.length).text (s.column column) := by
  rw [← String.toList_inj, text, String.toList_ofList]
  cases values with
  | nil =>
    cases negated <;> simp [Spelling.inList, Spelling.emptyMember, MemberTest.standard, ofNone,
      chars, digit]
  | cons value values =>
    have hmarks := toList_operands hoperand value values
    cases negated <;> simp [Spelling.inList, Spelling.member, Spelling.memberOperator,
      MemberTest.standard, chars, tail, ← hmarks]

/-- DB2 writes its test. -/
theorem inList_eq_db2 (column : Column) (values : List Value) (negated : Bool) :
    Db2.inList s column (values.map .literal) negated =
      (MemberTest.db2 negated values.length).text (s.column column) := by
  rcases values with _ | ⟨value, _ | ⟨next, rest⟩⟩
  · exact inList_eq_standard hoperand column [] negated
  · have hmark : s.operand (.literal value) = "?" := by rw [hoperand]; rfl
    rw [← String.toList_inj, text, String.toList_ofList]
    cases negated <;> simp [Db2.inList, hmark, MemberTest.db2, chars, tail]
  · exact inList_eq_standard hoperand column (value :: next :: rest) negated

end Written

/-! ## The same meaning -/

/-- A test for membership as standard SQL writes it in the spelling of a dialect; a sub-query is
written by the dialect. -/
def Dialect.standardMember (d : Dialect) (column : Column) (negated : Bool) : Source → String
  | .list operands => d.toSpelling.inList column operands negated
  | .query query => d.toSpelling.member column negated (d.select query)
  | .deferred build => d.toSpelling.member column negated (d.select (build ()))

/-- The test for membership in a list of values. -/
def Dialect.valuesTest (d : Dialect) (column : Column) (values : List Value) (negated : Bool) :
    String :=
  d.predicate (.member column (.list (values.map .literal)) negated)

theorem Dialect.valuesTest_generic (tablePrefix : String) (column : Column) (values : List Value)
    (negated : Bool) : (Dialect.generic tablePrefix).valuesTest column values negated =
      (MemberTest.standard negated values.length).text
        ((Dialect.generic tablePrefix).column column) := by
  simp only [valuesTest, predicate, member]
  exact inList_eq_standard rfl column values negated

namespace Db2

theorem Connection.valuesTest_dialect (c : Connection) (column : Column) (values : List Value)
    (negated : Bool) : c.dialect.valuesTest column values negated =
      (MemberTest.db2 negated values.length).text (c.dialect.column column) := by
  simp only [Dialect.valuesTest, Dialect.predicate, Dialect.member]
  exact inList_eq_db2 rfl column values negated

theorem inList_of_isRaw {s : Spelling} {operands : List Operand}
    (h : ∃ operand ∈ operands, operand.isRaw = true) (column : Column) (negated : Bool) :
    inList s column operands negated = s.inList column operands negated := by
  obtain ⟨operand, hmem, hraw⟩ := h
  unfold inList
  split
  · obtain rfl := List.mem_singleton.1 hmem
    cases hraw
  · rfl

/-- **Membership in DB2.** For a list of values DB2 and standard SQL write texts that are true,
false and unknown together, whatever the values are and however two values that are not NULL
compare; both have one placeholder for each value. Lists with raw operands and sub-queries are
written as standard SQL writes them, the sub-queries themselves by DB2. -/
theorem membership_same_truth (c : Connection) (tablePrefix : String) (column : Column)
    (negated : Bool) :
    (∀ values : List Value,
      (∀ {V : Type} (equal : V → V → Bool) (x : Option V) (bound : List (Option V)),
        bound.length = values.length →
        MemberTest.truthOf? equal x (c.dialect.column column)
            (c.dialect.valuesTest column values negated) bound =
          some (Truth.member equal negated x bound) ∧
        MemberTest.truthOf? equal x ((Dialect.generic tablePrefix).column column)
            ((Dialect.generic tablePrefix).valuesTest column values negated) bound =
          some (Truth.member equal negated x bound)) ∧
      (c.dialect.valuesTest column values negated).toList.count '?' =
        (if values.length = 0 then 0 else (c.dialect.column column).toList.count '?') +
          values.length ∧
      ((Dialect.generic tablePrefix).valuesTest column values negated).toList.count '?' =
        (if values.length = 0 then 0
          else ((Dialect.generic tablePrefix).column column).toList.count '?') + values.length) ∧
    ∀ source : Source,
      (∀ operands, source = .list operands → ∃ operand ∈ operands, operand.isRaw = true) →
      c.dialect.predicate (.member column source negated) =
        c.dialect.standardMember column negated source := by
  have hdb2 := fun values => c.valuesTest_dialect column values negated
  have hgeneric := fun values => Dialect.valuesTest_generic tablePrefix column values negated
  refine ⟨fun values => ⟨fun equal x bound hbound => ⟨?_, ?_⟩, ?_, ?_⟩, fun source hsource => ?_⟩
  · rw [hdb2, MemberTest.truthOf?, MemberTest.read?_text, Option.bind_some]
    exact MemberTest.truth?_db2 equal x negated hbound
  · rw [hgeneric, MemberTest.truthOf?, MemberTest.read?_text, Option.bind_some]
    exact MemberTest.truth?_standard equal x negated hbound
  · rw [hdb2, MemberTest.count_text, MemberTest.placeholders_db2]
  · rw [hgeneric, MemberTest.count_text, MemberTest.placeholders_standard]
  · simp only [Dialect.predicate]
    cases source with
    | list operands =>
      simp only [Dialect.member, Dialect.standardMember]
      exact inList_of_isRaw (hsource operands rfl) column negated
    | query query => simp only [Dialect.member, Dialect.standardMember]
    | deferred build => simp only [Dialect.member, Dialect.standardMember]

/-- A column that is not in a list of NULL, and a list with a raw operand behind a value. -/
theorem membership_same_truth_null :
    ({} : Connection).dialect.valuesTest (.named "id") [.null] true = "\"id\" <> ?" ∧
    (Dialect.generic "").valuesTest (.named "id") [.null] true = "\"id\" not in (?)" ∧
    ([none] : List (Option Nat)).length = [Value.null].length ∧
    MemberTest.truthOf? (· == ·) (some 1) "\"id\"" "\"id\" <> ?" [none] = some .unknown ∧
    MemberTest.truthOf? (· == ·) (some 1) "\"id\"" "\"id\" not in (?)" [none] = some .unknown ∧
    (∃ operand ∈ [Operand.literal (.bool true), .raw "7"], operand.isRaw = true) ∧
    ({} : Connection).dialect.predicate
        (.member (.named "id") (.list [.literal (.bool true), .raw "7"]) true) =
      "\"id\" not in (?, 7)" := by
  obtain ⟨hvalues, hsource⟩ := membership_same_truth {} "" (.named "id") true
  have hdb2 : ({} : Connection).dialect.valuesTest (.named "id") [.null] true =
      "\"id\" <> ?" := by
    decide +kernel
  have hgeneric : (Dialect.generic "").valuesTest (.named "id") [.null] true =
      "\"id\" not in (?)" := by
    decide +kernel
  have hcolumn : ({} : Connection).dialect.column (.named "id") = "\"id\"" := by decide +kernel
  have hstandard : (Dialect.generic "").column (.named "id") = "\"id\"" := by decide +kernel
  have hraw : ∃ operand ∈ [Operand.literal (.bool true), .raw "7"], operand.isRaw = true :=
    ⟨.raw "7", by simp, rfl⟩
  obtain ⟨htruth, htruth'⟩ := (hvalues [.null]).1 (· == ·) (some 1) [none] rfl
  rw [hdb2, hcolumn] at htruth
  rw [hgeneric, hstandard] at htruth'
  refine ⟨hdb2, hgeneric, rfl, htruth, htruth', hraw, ?_⟩
  rw [hsource (.list _) fun operands h => by cases h; exact hraw]
  decide +kernel

end Db2

end SqlDialect
