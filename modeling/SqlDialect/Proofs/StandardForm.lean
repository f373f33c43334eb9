import SqlDialect.Db2.Dialect
import SqlDialect.Proofs.Recursion

/-!
# The standard form of a query

What DB2 writes in a way of its own, standard SQL can be made to write: a match in upper case is a
comparison of raw texts, and membership in a list of one value is a comparison. Rewriting all
conditions of a query like this, at every depth, gives its standard form
(`Db2.Connection.standardForm`), and the statement of a query is the standard statement of its
standard form (`Db2.Connection.select_eq_select_standardForm`), as long as names are quoted and rows
are not left out in a way of its own.
-/

namespace SqlDialect

/-! ## Queries without limits -/

mutual

/-- Whether neither the query nor any of its sub-queries, at any depth, has a limit or an
offset. -/
def Query.unpaged : Query → Bool
  | ⟨_, _, _, _, conditions, _, _, _, limit, offset, _⟩ =>
    limit.isNone && offset.isNone && Clause.allUnpaged conditions

/-- Whether no sub-query of the conditions has a limit or an offset. -/
def Clause.allUnpaged : List Clause → Bool
  | [] => true
  | clause :: rest => clause.unpaged && Clause.allUnpaged rest

/-- Whether no sub-query of the condition has a limit or an offset. -/
def Clause.unpaged : Clause → Bool
  | ⟨_, predicate⟩ => predicate.unpaged

/-- Whether no sub-query of the predicate has a limit or an offset. -/
def Predicate.unpaged : Predicate → Bool
  | .member _ source _ => source.unpaged
  | .group clauses => Clause.allUnpaged clauses
  | .hasRows query _ => query.unpaged
  | _ => true

/-- Whether the query of the source has no limit and no offset, at any depth. -/
def Source.unpaged : Source → Bool
  | .list _ => true
  | .query query => query.unpaged
  | .deferred build => (build ()).unpaged

end

theorem Clause.allUnpaged_iff {clauses : List Clause} :
    Clause.allUnpaged clauses = true ↔
      ∀ clause ∈ clauses, clause.predicate.unpaged = true := by
  induction clauses with
  | nil => simp [Clause.allUnpaged]
  | cons clause rest ih =>
    cases clause
    simp [Clause.allUnpaged, Clause.unpaged, ih]

theorem Query.unpaged_iff {q : Query} :
    q.unpaged = true ↔ q.limit = none ∧ q.offset = none ∧
      ∀ clause ∈ q.conditions, clause.predicate.unpaged = true := by
  cases q
  simp [Query.unpaged, Clause.allUnpaged_iff, and_assoc]

theorem Predicate.unpaged_subquery {p : Predicate} (h : p.unpaged = true) {q : Query}
    (hq : p.subquery? = some q) : q.unpaged = true := by
  cases p with
  | member column source negated =>
    cases source <;> simp only [subquery?, Source.query?, Option.some.injEq, reduceCtorEq] at hq <;>
      exact hq ▸ h
  | hasRows query negated => exact Option.some.inj hq ▸ h
  | _ => exact nomatch hq

theorem Predicate.unpaged_grouped {p : Predicate} (h : p.unpaged = true) {clause : Clause}
    (hc : clause ∈ p.grouped) : clause.predicate.unpaged = true := by
  cases p with
  | group clauses => exact Clause.allUnpaged_iff.1 h clause hc
  | _ => exact nomatch hc

namespace Db2.Connection

variable (c : Connection)

/-! ## Rewriting -/

/-- A column for a match in upper case: a named one becomes raw text, cast first if the policy asks
for it. -/
def standardColumn : Column → Column
  | .raw sql => .raw sql
  | .named name =>
    let written := c.dialect.columnName name
    .raw (if c.castPolicy.casts name then "UPPER(CHAR(" ++ written ++ "))"
      else "UPPER(" ++ written ++ ")")

/-- An operand for a match in upper case: a value becomes the raw text of its placeholder. -/
def standardOperand : Operand → Operand
  | .raw sql => .raw sql
  | .literal _ => .raw "UPPER(?)"

/-- A comparison; one by `LIKE` or `NOT LIKE` compares raw texts in upper case. -/
def standardCompare (column : Column) (operator : String) (operand : Operand) : Predicate :=
  match likeOperator? operator with
  | some like => .compare (c.standardColumn column) like (standardOperand operand)
  | none => .compare column operator operand

/-- A test for membership in a list; with a single value it is a comparison. -/
def standardList (column : Column) (operands : List Operand) (negated : Bool) : Predicate :=
  match operands with
  | [.literal value] => .compare column (if negated then "<>" else "=") (.literal value)
  | operands => .member column (.list operands) negated

mutual

/-- The query with all conditions rewritten, at every depth. -/
def standardForm (c : Connection) : Query → Query
  | ⟨distinct, columns, source, joins, conditions, groups, havings, orders, limit, offset,
      bindings⟩ =>
    ⟨distinct, columns, source, joins, c.standardClauses conditions, groups, havings, orders,
      limit, offset, bindings⟩

/-- The conditions, rewritten. -/
def standardClauses (c : Connection) : List Clause → List Clause
  | [] => []
  | clause :: rest => c.standardClause clause :: c.standardClauses rest

/-- The condition, rewritten. -/
def standardClause (c : Connection) : Clause → Clause
  | ⟨connective, predicate⟩ => ⟨connective, c.standardPredicate predicate⟩

/-- The predicate, rewritten. -/
def standardPredicate (c : Connection) : Predicate → Predicate
  | .compare column operator operand => c.standardCompare column operator operand
  | .member column source negated => c.standardMember column negated source
  | .group clauses => .group (c.standardClauses clauses)
  | .hasRows query negated => .hasRows (c.standardForm query) negated
  | p => p

/-- The membership test, rewritten. -/
def standardMember (c : Connection) (column : Column) (negated : Bool) : Source → Predicate
  | .list operands => standardList column operands negated
  | .query query => .member column (.query (c.standardForm query)) negated
  | .deferred build => .member column (.deferred fun _ => c.standardForm (build ())) negated

end

theorem standardClauses_eq_map (clauses : List Clause) :
    c.standardClauses clauses =
      clauses.map fun clause => ⟨clause.connective, c.standardPredicate clause.predicate⟩ := by
  induction clauses with
  | nil => rfl
  | cons clause rest ih =>
    cases clause
    simp only [standardClauses, standardClause, ih, List.map_cons]

@[simp] theorem standardForm_conditions (q : Query) :
    (c.standardForm q).conditions = c.standardClauses q.conditions := by
  cases q
  rfl

/-! ## Two dialects write the same -/

variable {c}

theorem spelling_eq_standard (hquote : c.settings.quoteNames = true) :
    c.spelling = .standard c.settings.tablePrefix := by
  have h : c.quote = Identifier.quoted := by
    funext segment
    simp only [quote, hquote, if_true]
  simp only [spelling, h, Spelling.standard]

/-- A comparison is the standard one of its rewriting. -/
theorem compare_eq_standardCompare (hquote : c.settings.quoteNames = true) (column : Column)
    (operator : String) (operand : Operand) :
    c.dialect.compare column operator operand =
      (Dialect.generic c.settings.tablePrefix).predicate
        (c.standardCompare column operator operand) := by
  have hs := spelling_eq_standard hquote
  have hcolumn : upperColumn c.spelling c.castPolicy column =
      (Spelling.standard c.settings.tablePrefix).column (c.standardColumn column) := by
    cases column with
    | named name => rfl
    | raw sql => rfl
  have hoperand : upperOperand c.spelling operand =
      (Spelling.standard c.settings.tablePrefix).operand (standardOperand operand) := by
    cases operand with
    | literal value => rfl
    | raw sql => rfl
  change Db2.compare c.spelling c.castPolicy column operator operand = _
  cases hop : likeOperator? operator with
  | some like =>
    simp only [Db2.compare, standardCompare, hop, hcolumn, hoperand]
    rfl
  | none =>
    simp only [Db2.compare, standardCompare, hop, hs]
    rfl

/-- A test for membership in a list is the standard text of its rewriting. -/
theorem inList_eq_standardList (hquote : c.settings.quoteNames = true) (column : Column)
    (operands : List Operand) (negated : Bool) :
    c.dialect.inList column operands negated =
      (Dialect.generic c.settings.tablePrefix).predicate
        (standardList column operands negated) := by
  have hs := spelling_eq_standard hquote
  have blanks : (if negated then " <> " else " = ") =
      " " ++ (if negated then "<>" else "=") ++ " " := by
    cases negated <;> simp
  change Db2.inList c.spelling column operands negated = _
  rcases operands with _ | ⟨o, _ | ⟨o', os⟩⟩
  · simp only [Db2.inList, standardList, hs, Dialect.predicate, Dialect.member, Dialect.generic,
      Dialect.ofSpelling]
  · cases o with
    | literal value =>
      simp only [Db2.inList, standardList, hs, blanks, Dialect.predicate, Dialect.generic,
        Dialect.ofSpelling, Spelling.comparison, String.append_assoc]
    | raw sql =>
      simp only [Db2.inList, standardList, hs, Dialect.predicate, Dialect.member,
        Dialect.generic, Dialect.ofSpelling]
  · cases o <;>
      simp only [Db2.inList, standardList, hs, Dialect.predicate, Dialect.member, Dialect.generic,
        Dialect.ofSpelling]

theorem conditionTexts_standardClauses {clauses : List Clause}
    (h : ∀ clause ∈ clauses, c.dialect.predicate clause.predicate =
      (Dialect.generic c.settings.tablePrefix).predicate
        (c.standardPredicate clause.predicate)) :
    c.dialect.conditionTexts clauses =
      (Dialect.generic c.settings.tablePrefix).conditionTexts (c.standardClauses clauses) := by
  rw [Dialect.conditionTexts_eq_map, Dialect.conditionTexts_eq_map, standardClauses_eq_map,
    List.map_map]
  refine List.map_congr_left fun clause hmem => ?_
  rw [Function.comp_apply, h clause hmem]

/-- The clauses without conditions are written alike, and so are limit and offset if they are
written in the standard way or missing. -/
theorem fragmentsWith_standardForm (hquote : c.settings.quoteNames = true) {q : Query}
    (hpages : c.settings.offsetCompatibility = false ∨ q.limit = none ∧ q.offset = none)
    (texts : List (Connective × String)) :
    c.dialect.fragmentsWith q texts =
      (Dialect.generic c.settings.tablePrefix).fragmentsWith (c.standardForm q) texts := by
  have hs := spelling_eq_standard hquote
  cases q with
  | mk distinct columns source joins conditions groups havings orders limit offset bindings =>
    have hlimit : limit.map c.dialect.limit = limit.map Dialect.limitClause := by
      rcases hpages with hoff | ⟨hnone, -⟩
      · simp only [dialect, hoff, Bool.false_eq_true, if_false]
      · simp only at hnone
        rw [hnone]
        rfl
    have hoffset : offset.map c.dialect.offset = offset.map Dialect.offsetClause := by
      rcases hpages with hoff | ⟨-, hnone⟩
      · simp only [dialect, hoff, Bool.false_eq_true, if_false]
      · simp only at hnone
        rw [hnone]
        rfl
    have hspelling : c.dialect.toSpelling = .standard c.settings.tablePrefix := hs
    simp only [Dialect.fragmentsWith, standardForm, hspelling, hlimit, hoffset,
      standardClauses_eq_map, List.isEmpty_map]
    rfl

theorem fragments_standardForm (hquote : c.settings.quoteNames = true) {q : Query}
    (hpages : c.settings.offsetCompatibility = false ∨ q.limit = none ∧ q.offset = none)
    (h : ∀ clause ∈ q.conditions, c.dialect.predicate clause.predicate =
      (Dialect.generic c.settings.tablePrefix).predicate
        (c.standardPredicate clause.predicate)) :
    c.dialect.fragments q =
      (Dialect.generic c.settings.tablePrefix).fragments (c.standardForm q) := by
  rw [Dialect.fragments, Dialect.fragments, standardForm_conditions,
    ← conditionTexts_standardClauses h, fragmentsWith_standardForm hquote hpages]

theorem numberedOffset?_eq_none {q : Query}
    (hpages : c.settings.offsetCompatibility = false ∨ q.limit = none ∧ q.offset = none) :
    c.numberedOffset? q = none := by
  rcases hpages with hoff | ⟨-, hnone⟩
  · simp only [numberedOffset?, hoff, Bool.false_eq_true, if_false]
  · simp only [numberedOffset?, activeOffset?, hnone, ite_self]

/-- **A statement is the standard statement of its standard form**, and so is a predicate. -/
theorem select_and_predicate_standardForm (hquote : c.settings.quoteNames = true) :
    (∀ q : Query, c.settings.offsetCompatibility = false ∨ q.unpaged = true →
      c.dialect.select q =
        (Dialect.generic c.settings.tablePrefix).select (c.standardForm q)) ∧
    ∀ p : Predicate, c.settings.offsetCompatibility = false ∨ p.unpaged = true →
      c.dialect.predicate p =
        (Dialect.generic c.settings.tablePrefix).predicate (c.standardPredicate p) := by
  have hspelling : c.dialect.toSpelling = .standard c.settings.tablePrefix :=
    spelling_eq_standard hquote
  refine Query.induction (fun q ih hpages => ?_) (fun p ihsub ihgroup hpages => ?_)
  · have hhere : c.settings.offsetCompatibility = false ∨ q.limit = none ∧ q.offset = none := by
      refine hpages.imp_right fun h => ?_
      obtain ⟨hlimit, hoffset, -⟩ := Query.unpaged_iff.1 h
      exact ⟨hlimit, hoffset⟩
    have hfragments := fragments_standardForm hquote hhere fun clause hmem =>
      ih clause hmem (hpages.imp_right fun h => (Query.unpaged_iff.1 h).2.2 clause hmem)
    rw [Dialect.select_eq, Dialect.select_eq, ← hfragments]
    simp only [dialect, numberedOffset?_eq_none hhere]
    rfl
  · have hsub : ∀ q, p.subquery? = some q → c.dialect.select q =
        (Dialect.generic c.settings.tablePrefix).select (c.standardForm q) := fun q hq =>
      ihsub q hq (hpages.imp_right fun h => Predicate.unpaged_subquery h hq)
    have hgroup : ∀ clause ∈ p.grouped, c.dialect.predicate clause.predicate =
        (Dialect.generic c.settings.tablePrefix).predicate
          (c.standardPredicate clause.predicate) := fun clause hc =>
      ihgroup clause hc (hpages.imp_right fun h => Predicate.unpaged_grouped h hc)
    cases p with
    | compare column operator operand =>
      exact compare_eq_standardCompare hquote column operator operand
    | member column source negated =>
      cases source with
      | list operands => exact inList_eq_standardList hquote column operands negated
      | query q =>
        simp only [standardPredicate, standardMember, Dialect.predicate, Dialect.member,
          hsub q rfl, hspelling]
        rfl
      | deferred build =>
        simp only [standardPredicate, standardMember, Dialect.predicate, Dialect.member,
          hsub (build ()) rfl, hspelling]
        rfl
    | null column negated =>
      simp only [standardPredicate, Dialect.predicate, hspelling]
      rfl
    | between column low high negated =>
      simp only [standardPredicate, Dialect.predicate, hspelling]
      rfl
    | compareColumns test =>
      simp only [standardPredicate, Dialect.predicate, hspelling]
      rfl
    | raw sql => rfl
    | group clauses =>
      have texts : c.dialect.conditionTexts clauses =
          (Dialect.generic c.settings.tablePrefix).conditionTexts (c.standardClauses clauses) :=
        conditionTexts_standardClauses hgroup
      simp only [standardPredicate, Dialect.predicate, texts]
    | hasRows q negated =>
      simp only [standardPredicate, Dialect.predicate, hsub q rfl]

/-- **DB2 text is the standard text of the standard form.** Names are quoted, and either limits and
offsets are written in the standard way or there are none at any depth. -/
theorem select_eq_select_standardForm (hquote : c.settings.quoteNames = true) (q : Query)
    (hpages : c.settings.offsetCompatibility = false ∨ q.unpaged = true) :
    c.dialect.select q =
      (Dialect.generic c.settings.tablePrefix).select (c.standardForm q) :=
  (select_and_predicate_standardForm hquote).1 q hpages

/-- A query that matches a time and looks into a list of one value, in a sub-query of a group. -/
def recentQuery : Query :=
  Query.build
    [.source "users",
      .group
        [.hasRows
          [.source "visits", .like (.named "visited_at") (.literal (.text "2024%")) false,
            .inList (.named "kind") [.literal (.int 1)] true]
          false],
      .orderBy "name" .ascending]

theorem select_eq_select_standardForm_recentQuery :
    ({} : Connection).settings.quoteNames = true ∧ recentQuery.unpaged = true ∧
    ({} : Connection).dialect.select recentQuery =
      (Dialect.generic ({} : Connection).settings.tablePrefix).select
        (({} : Connection).standardForm recentQuery) :=
  ⟨rfl, rfl, select_eq_select_standardForm rfl recentQuery (.inr rfl)⟩

end Db2.Connection

end SqlDialect
