import SqlDialect.Db2.Dialect
import SqlDialect.Proofs.Recursion

/-!
# Values do not reach the text

A value is sent beside a statement and never written into it. Stated over two runs: queries of the
same shape, which differ at most in the values of their operands and in their bindings, at any
depth, have the same text.

The shape of a query is the query with every value forgotten (`Query.blank`). A dialect ignores
values (`Dialect.IgnoresValues`) if none of its decisions tells a query or an operand from its
shape; then its texts cannot either (`Dialect.IgnoresValues.select_blank`), and every dialect of
this library is one of these.
-/

namespace SqlDialect

/-! ## Shapes -/

/-- The operand with its value forgotten. -/
def Operand.blank : Operand → Operand
  | .literal _ => .literal .null
  | .raw sql => .raw sql

/-- The condition on groups with its value forgotten. -/
def HavingTest.blank : HavingTest → HavingTest
  | .compare column operator operand => .compare column operator operand.blank
  | .raw sql => .raw sql

/-- The condition on groups with its value forgotten. -/
def Having.blank (h : Having) : Having := { h with test := h.test.blank }

mutual

/-- The query with every value forgotten: those of its operands, and all of its bindings. -/
def Query.blank : Query → Query
  | ⟨distinct, columns, source, joins, conditions, groups, havings, orders, limit, offset, _⟩ =>
    ⟨distinct, columns, source, joins, Clause.allBlank conditions, groups,
      havings.map Having.blank, orders, limit, offset, {}⟩

/-- The conditions with every value forgotten. -/
def Clause.allBlank : List Clause → List Clause
  | [] => []
  | clause :: rest => clause.blank :: Clause.allBlank rest

/-- The condition with every value forgotten. -/
def Clause.blank : Clause → Clause
  | ⟨connective, predicate⟩ => ⟨connective, predicate.blank⟩

/-- The predicate with every value forgotten. -/
def Predicate.blank : Predicate → Predicate
  | .compare column operator operand => .compare column operator operand.blank
  | .member column source negated => .member column source.blank negated
  | .null column negated => .null column negated
  | .between column low high negated => .between column low.blank high.blank negated
  | .compareColumns test => .compareColumns test
  | .raw sql => .raw sql
  | .group clauses => .group (Clause.allBlank clauses)
  | .hasRows query negated => .hasRows query.blank negated

/-- The source with every value forgotten. -/
def Source.blank : Source → Source
  | .list operands => .list (operands.map Operand.blank)
  | .query query => .query query.blank
  | .deferred build => .deferred fun _ => (build ()).blank

end

/-- The queries are equal but for the values of their operands and for their bindings, at every
depth. -/
def Query.SameShape (q r : Query) : Prop := q.blank = r.blank

/-- The predicates are equal but for the values of their operands and for the bindings of their
sub-queries, at every depth. -/
def Predicate.SameShape (p p' : Predicate) : Prop := p.blank = p'.blank

theorem Clause.allBlank_eq_map (clauses : List Clause) :
    Clause.allBlank clauses = clauses.map Clause.blank := by
  induction clauses with
  | nil => rfl
  | cons clause rest ih => rw [Clause.allBlank, ih, List.map_cons]

@[simp] theorem Query.blank_conditions (q : Query) :
    q.blank.conditions = Clause.allBlank q.conditions := by
  cases q
  rfl

@[simp] theorem Clause.blank_connective (clause : Clause) :
    clause.blank.connective = clause.connective := by
  cases clause
  rfl

@[simp] theorem Clause.blank_predicate (clause : Clause) :
    clause.blank.predicate = clause.predicate.blank := by
  cases clause
  rfl

/-! ## Decisions that ignore values -/

namespace Dialect

variable {d : Dialect}

/-- No decision of the dialect tells an operand or a query from its shape. -/
structure IgnoresValues (d : Dialect) : Prop where
  operand : ∀ o : Operand, d.operand o.blank = d.operand o
  compare : ∀ column operator, ∀ o : Operand,
    d.compare column operator o.blank = d.compare column operator o
  inList : ∀ column, ∀ os : List Operand, ∀ negated,
    d.inList column (os.map Operand.blank) negated = d.inList column os negated
  assemble : ∀ (q : Query) fragments, d.assemble q.blank fragments = d.assemble q fragments
  /-- The question for rows is alike for queries of one shape, if they are selected alike. -/
  existence : ∀ select : Query → String,
    (∀ q r : Query, q.SameShape r → select q = select r) →
    ∀ q r : Query, q.SameShape r → d.existence select q = d.existence select r

theorem conditionTexts_blank {clauses : List Clause}
    (hc : ∀ clause ∈ clauses, d.predicate clause.predicate.blank = d.predicate clause.predicate) :
    d.conditionTexts (Clause.allBlank clauses) = d.conditionTexts clauses := by
  rw [conditionTexts_eq_map, conditionTexts_eq_map, Clause.allBlank_eq_map, List.map_map]
  refine List.map_congr_left fun clause hmem => ?_
  rw [Function.comp_apply, Clause.blank_connective, Clause.blank_predicate, hc clause hmem]

namespace IgnoresValues

variable (h : d.IgnoresValues)

include h

theorem havingTest (t : HavingTest) : d.havingTest t.blank = d.havingTest t := by
  cases t with
  | compare column operator operand =>
    simp only [HavingTest.blank, Spelling.havingTest, Spelling.comparison, h.operand]
  | raw sql => rfl

theorem havingClause (hs : List Having) :
    d.havingClause (hs.map Having.blank) = d.havingClause hs := by
  have same : ∀ t : Having, (t.blank.connective, d.havingTest t.blank.test) =
      (t.connective, d.havingTest t.test) := by
    intro t
    rw [Having.blank, h.havingTest]
  simp only [Spelling.havingClause, Spelling.havingConditions, List.map_map, Function.comp_def,
    same]

/-- Fragments of a query and of its shape are alike once their conditions are. -/
theorem fragmentsWith (q : Query) (texts : List (Connective × String)) :
    d.fragmentsWith q.blank texts = d.fragmentsWith q texts := by
  cases q with
  | mk distinct columns source joins conditions groups havings orders limit offset bindings =>
    simp only [Query.blank, Dialect.fragmentsWith, h.havingClause, List.isEmpty_map,
      Clause.allBlank_eq_map]
    rfl

theorem fragments_blank {q : Query} (hq : ∀ clause ∈ q.conditions,
    d.predicate clause.predicate.blank = d.predicate clause.predicate) :
    d.fragments q.blank = d.fragments q := by
  rw [fragments, fragments, Query.blank_conditions, conditionTexts_blank hq, h.fragmentsWith]

/-- **The text of a query is that of its shape**, and so is the text of a predicate. -/
theorem select_and_predicate_blank :
    (∀ q : Query, d.select q.blank = d.select q) ∧
      ∀ p : Predicate, d.predicate p.blank = d.predicate p := by
  refine Query.induction (fun q hq => ?_) (fun p hsub hgroup => ?_)
  · rw [select_eq, select_eq, h.fragments_blank hq, h.assemble]
  · cases p with
    | compare column operator operand => simp only [Predicate.blank, predicate, h.compare]
    | member column source negated =>
      cases source with
      | list operands => simp only [Predicate.blank, Source.blank, predicate, member, h.inList]
      | query q => simp only [Predicate.blank, Source.blank, predicate, member, hsub q rfl]
      | deferred build =>
        simp only [Predicate.blank, Source.blank, predicate, member, hsub (build ()) rfl]
    | null column negated => rfl
    | between column low high negated => simp only [Predicate.blank, predicate, h.operand]
    | compareColumns test => rfl
    | raw sql => rfl
    | group clauses =>
      have texts : d.conditionTexts (Clause.allBlank clauses) = d.conditionTexts clauses :=
        conditionTexts_blank hgroup
      simp only [Predicate.blank, predicate, texts]
    | hasRows q negated => simp only [Predicate.blank, predicate, hsub q rfl]

theorem select_eq_of_sameShape {q r : Query} (hqr : q.SameShape r) : d.select q = d.select r := by
  have hblank := h.select_and_predicate_blank.1
  rw [← hblank q, ← hblank r, hqr]

theorem predicate_eq_of_sameShape {p p' : Predicate} (hp : p.SameShape p') :
    d.predicate p = d.predicate p' := by
  have hblank := h.select_and_predicate_blank.2
  rw [← hblank p, ← hblank p', hp]

theorem fragments_eq_of_sameShape {q r : Query} (hqr : q.SameShape r) :
    d.fragments q = d.fragments r := by
  have hblank : ∀ q : Query, d.fragments q.blank = d.fragments q := fun q =>
    h.fragments_blank fun clause _ => h.select_and_predicate_blank.2 clause.predicate
  rw [← hblank q, ← hblank r, hqr]

theorem hasRows_eq_of_sameShape {q r : Query} (hqr : q.SameShape r) :
    d.hasRows q = d.hasRows r :=
  h.existence d.select (fun _ _ => h.select_eq_of_sameShape) q r hqr

end IgnoresValues

end Dialect

/-! ## The dialects of this library -/

namespace Spelling

variable {s : Spelling} (hs : ∀ o : Operand, s.operand o.blank = s.operand o)

include hs

theorem comparison_blank (column : Column) (operator : String) (o : Operand) :
    s.comparison column operator o.blank = s.comparison column operator o := by
  rw [comparison, comparison, hs]

theorem inList_blank (column : Column) (os : List Operand) (negated : Bool) :
    s.inList column (os.map Operand.blank) negated = s.inList column os negated := by
  simp only [inList, operands, List.isEmpty_map, List.map_map, Function.comp_def, hs]

end Spelling

theorem Spelling.questionMark_blank (o : Operand) : questionMark o.blank = questionMark o := by
  cases o <;> rfl

theorem Dialect.ignoresValues_generic (tablePrefix : String) :
    (generic tablePrefix).IgnoresValues where
  operand := Spelling.questionMark_blank
  compare := Spelling.comparison_blank Spelling.questionMark_blank
  inList := Spelling.inList_blank Spelling.questionMark_blank
  assemble := fun _ _ => rfl
  existence := fun select hselect q r hqr => by
    have hsql : select q = select r := hselect q r hqr
    simp only [generic, ofSpelling, hsql]

namespace Db2

theorem compare_blank (s : Spelling) (policy : CastPolicy)
    (hs : ∀ o : Operand, s.operand o.blank = s.operand o) (column : Column) (operator : String)
    (o : Operand) :
    compare s policy column operator o.blank = compare s policy column operator o := by
  have hupper : upperOperand s o.blank = upperOperand s o := by
    cases o with
    | literal value => simp only [Operand.blank, upperOperand, ← hs (.literal value)]
    | raw sql => rfl
  simp only [compare, hupper, Spelling.comparison_blank hs]

/-- A list of two operands or more is written in the standard way. -/
theorem inList_cons_cons (s : Spelling) (column : Column) (o o' : Operand) (os : List Operand)
    (negated : Bool) :
    inList s column (o :: o' :: os) negated = s.inList column (o :: o' :: os) negated := by
  cases o <;> rfl

theorem inList_blank (s : Spelling) (hs : ∀ o : Operand, s.operand o.blank = s.operand o)
    (column : Column) (os : List Operand) (negated : Bool) :
    inList s column (os.map Operand.blank) negated = inList s column os negated := by
  rcases os with _ | ⟨o, _ | ⟨o', os⟩⟩
  · rfl
  · cases o with
    | literal value => simp only [List.map, Operand.blank, inList, ← hs (.literal value)]
    | raw sql => rfl
  · rw [List.map_cons, List.map_cons, inList_cons_cons, inList_cons_cons]
    exact Spelling.inList_blank hs column (o :: o' :: os) negated

/-- The shape of an existence query hangs on the shape of the query only. -/
theorem existenceQuery_sameShape {q r : Query} (h : q.SameShape r) :
    (existenceQuery q).SameShape (existenceQuery r) := by
  have hblank : ∀ q : Query, (existenceQuery q).blank =
      { q.blank with columns := some [.raw "1 exists"], limit := some 1 } := by
    intro q
    cases q
    rfl
  rw [Query.SameShape, hblank, hblank, h]

theorem Connection.ignoresValues (c : Connection) : c.dialect.IgnoresValues where
  operand := Spelling.questionMark_blank
  compare := compare_blank c.spelling c.castPolicy Spelling.questionMark_blank
  inList := inList_blank c.spelling Spelling.questionMark_blank
  assemble := fun q fragments => by
    cases q
    rfl
  existence := fun select hselect q r hqr => hselect _ _ (existenceQuery_sameShape hqr)

end Db2

/-! ## Two runs -/

/-- The dialects of this library: standard SQL with a table prefix, and that of a connection. -/
inductive Dialect.Provided : Dialect → Prop
  | generic (tablePrefix : String) : (Dialect.generic tablePrefix).Provided
  | db2 (c : Db2.Connection) : c.dialect.Provided

/-- **Values do not reach the text.** In every dialect, queries of the same shape have the same
statement, the same existence check and the same fragments, and predicates of the same shape have
the same text. -/
theorem text_eq_of_sameShape {d : Dialect} (hd : d.Provided) :
    (∀ q r : Query, q.SameShape r →
      d.select q = d.select r ∧ d.hasRows q = d.hasRows r ∧ d.fragments q = d.fragments r) ∧
    ∀ p p' : Predicate, p.SameShape p' → d.predicate p = d.predicate p' := by
  have h : d.IgnoresValues := by
    cases hd with
    | generic tablePrefix => exact Dialect.ignoresValues_generic tablePrefix
    | db2 c => exact c.ignoresValues
  refine ⟨fun q r hqr => ⟨?_, ?_, ?_⟩, fun p p' hp => h.predicate_eq_of_sameShape hp⟩
  · exact h.select_eq_of_sameShape hqr
  · exact h.hasRows_eq_of_sameShape hqr
  · exact h.fragments_eq_of_sameShape hqr

/-- A query for the users of a kind, with a match, a list of one value and an offset. -/
def usersOfKind (kind pattern state : Value) : Query :=
  Query.build
    [.source "users",
      .inDeferred (.named "id")
        [.source "members", .compare .and (.named "kind") "=" (.literal kind), .offset 5],
      .like (.named "name") (.literal pattern) false,
      .group [.inList (.named "state") [.literal state] true]]

theorem text_eq_of_sameShape_usersOfKind :
    (({} : Db2.Connection).dialect.Provided) ∧
    (usersOfKind (.int 1) (.text "a%") .null).SameShape
      (usersOfKind (.text "' or 1 = 1 --") (.text "?") (.bool true)) ∧
    ({} : Db2.Connection).dialect.select (usersOfKind (.int 1) (.text "a%") .null) =
      ({} : Db2.Connection).dialect.select
        (usersOfKind (.text "' or 1 = 1 --") (.text "?") (.bool true)) := by
  have hshape : (usersOfKind (.int 1) (.text "a%") .null).SameShape
      (usersOfKind (.text "' or 1 = 1 --") (.text "?") (.bool true)) := rfl
  have htext := (text_eq_of_sameShape (.db2 {})).1 _ _ hshape
  exact ⟨.db2 {}, hshape, htext.1⟩

end SqlDialect
