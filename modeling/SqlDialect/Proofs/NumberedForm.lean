import SqlDialect.Db2.Dialect
import SqlDialect.Query.Step

/-!
# The numbered form of a query

To leave out rows, DB2 cuts and pastes the written clauses of a statement: it takes the order and
the limit out, qualifies a wildcard at the end of the select clause, and puts the row number behind
it. The same text is the statement of a query that has the row number among its columns
(`Db2.Connection.numberedForm`). So the statement of every query is the plain statement of a query
without limit and offset, either with a clause behind it that fetches the first rows, or inside a
statement that keeps a range of row numbers (`Db2.Connection.select_eq_select_numberedForm`).
-/

namespace SqlDialect

namespace Query

/-- The selected columns, with the wildcard in place of none. -/
def selected (q : Query) : List Column :=
  match q.columns with
  | some (column :: columns) => column :: columns
  | _ => [.raw "*"]

/-- The query without limit and offset. -/
def unlimited (q : Query) : Query := { q with limit := none, offset := none }

theorem selected_ne_nil (q : Query) : q.selected ≠ [] := by
  unfold selected
  split <;> exact List.cons_ne_nil _ _

/-- The words that the select clause begins with. -/
def selectWords (q : Query) : String := (if q.distinct then "select distinct" else "select") ++ " "

end Query

/-! ## Select clauses -/

namespace Spelling

variable (s : Spelling) (q : Query)

theorem columns_append {first second : List Column} (hfirst : first ≠ []) (hsecond : second ≠ []) :
    s.columns (first ++ second) = s.columns first ++ ", " ++ s.columns second := by
  rw [Spelling.columns, List.map_append, String.intercalate_append_of_ne_nil
    (by simpa using hfirst) (by simpa using hsecond)]
  rfl

@[simp] theorem columns_singleton (column : Column) : s.columns [column] = s.column column :=
  String.intercalate_singleton

theorem selectClause_eq : s.selectClause q = q.selectWords ++ s.columns q.selected := by
  cases hcolumns : q.columns with
  | none => simp [selectClause, Query.selected, hcolumns, Query.selectWords, column]
  | some columns =>
    cases columns with
    | nil => simp [selectClause, Query.selected, hcolumns, Query.selectWords, column]
    | cons column columns => simp [selectClause, Query.selected, hcolumns, Query.selectWords]

theorem selectClause_ne_empty : s.selectClause q ≠ "" := by
  rw [selectClause_eq, Query.selectWords]
  split <;> simp [← String.toList_inj]

/-- What a select clause shows in front of a column that stands behind other columns. -/
def beforeColumn (columns : List Column) : String :=
  q.selectWords ++ if columns.isEmpty then "" else s.columns columns ++ ", "

theorem selectWords_append_columns (columns : List Column) (last : Column) :
    q.selectWords ++ s.columns (columns ++ [last]) = s.beforeColumn q columns ++ s.column last := by
  cases columns with
  | nil => simp [beforeColumn]
  | cons column columns =>
    rw [s.columns_append (List.cons_ne_nil _ _) (List.cons_ne_nil _ _), columns_singleton,
      beforeColumn, if_neg (by simp)]
    simp only [String.append_assoc]

theorem getLast?_beforeColumn (columns : List Column) :
    (s.beforeColumn q columns).toList.getLast? = some ' ' := by
  cases columns with
  | nil => simp [beforeColumn, Query.selectWords]
  | cons column columns => simp [beforeColumn]

end Spelling

/-! ## Wildcards -/

namespace Db2

/-- The text with another in place of the asterisk that it ends in, if it ends in one. -/
def replaceAsterisk (text replacement : String) : String :=
  if text.toList.getLast? = some '*' then String.ofList text.toList.dropLast ++ replacement
  else text

/-- The columns with the asterisk that the last one ends in qualified by the name of a table. -/
def qualifyLast (s : Spelling) (table : String) (columns : List Column) : List Column :=
  columns.dropLast ++ columns.getLast?.toList.map fun last =>
    .raw (replaceAsterisk (s.column last) (s.table table ++ ".*"))

/-- The selected columns; a wildcard at the end is qualified by the name by which the table is
known, if there is a table. -/
def qualifiedColumns (s : Spelling) (q : Query) : List Column :=
  match q.source with
  | some table =>
    if endsInWildcard (s.selectClause q) then qualifyLast s (correlationName table) q.selected
    else q.selected
  | none => q.selected

/-- The number of a row as a column, in the order of some keys or, without keys, of the first
column. -/
def rowNumber (s : Spelling) (keys : List SortKey) : Column :=
  .raw ("row_number() over (" ++ (if keys.isEmpty then "order by 1" else s.orderClause keys) ++
    ") as row_num")

theorem dropAsterisks_append_asterisk {text : List Char} (h : text.getLast? = some ' ') :
    dropAsterisks (String.ofList (text ++ ['*'])) = String.ofList text := by
  obtain ⟨front, rfl⟩ := List.getLast?_eq_some_iff.1 h
  simp [dropAsterisks]

variable (s : Spelling) (q : Query)

/-- A wildcard at the end of a select clause is the last character of the last column. -/
theorem eq_append_asterisk_of_endsInWildcard {columns : List Column} {last : Column}
    (h : endsInWildcard (s.beforeColumn q columns ++ s.column last) = true) :
    ∃ text : List Char, (s.column last).toList = text ++ ['*'] ∧
      ((s.beforeColumn q columns).toList ++ text).getLast? = some ' ' := by
  have hblank := s.getLast?_beforeColumn q columns
  obtain ⟨front, hfront⟩ := List.isSuffixOf_iff_suffix.1 h
  rw [String.toList_append] at hfront
  rcases List.eq_nil_or_concat (s.column last).toList with hnil | ⟨text, star, htext⟩
  · rw [hnil, List.append_nil] at hfront
    rw [← hfront] at hblank
    simp at hblank
  · rw [htext, List.concat_eq_append, ← List.append_assoc] at hfront
    have hends : front ++ [' '] ++ ['*'] =
        (s.beforeColumn q columns).toList ++ text ++ [star] := by simpa using hfront
    obtain ⟨hfirst, hstar⟩ := List.append_inj' hends rfl
    refine ⟨text, ?_, ?_⟩
    · rw [htext, List.concat_eq_append, ← hstar]
    · rw [← hfirst]
      simp

/-- The select clause of qualified columns is the one without its asterisk and with the qualified
wildcard in its place. -/
theorem columns_qualifyLast {columns : List Column} {last : Column} (table : String)
    (h : endsInWildcard (s.beforeColumn q columns ++ s.column last) = true) :
    q.selectWords ++ s.columns (qualifyLast s table (columns ++ [last])) =
      dropAsterisks (s.beforeColumn q columns ++ s.column last) ++ s.table table ++ ".*" := by
  obtain ⟨text, htext, hblank⟩ := eq_append_asterisk_of_endsInWildcard s q h
  have hlast : s.column last = String.ofList (text ++ ['*']) := by
    rw [← htext, String.ofList_toList]
  have hjoined : s.beforeColumn q columns ++ s.column last =
      String.ofList ((s.beforeColumn q columns).toList ++ text ++ ['*']) := by
    rw [hlast]
    simp only [String.ofList_append, String.ofList_toList, String.append_assoc]
  have hqualified : qualifyLast s table (columns ++ [last]) =
      columns ++ [.raw (String.ofList text ++ (s.table table ++ ".*"))] := by
    simp [qualifyLast, replaceAsterisk, hlast]
  rw [hqualified, s.selectWords_append_columns, hjoined, dropAsterisks_append_asterisk hblank,
    String.ofList_append, String.ofList_toList, Spelling.column]
  simp only [String.append_assoc]

/-- **Cutting a wildcard off a select clause qualifies its last column.** -/
theorem numberedColumns_eq :
    numberedColumns s (some (s.selectClause q)) q.source =
      q.selectWords ++ s.columns (qualifiedColumns s q) ++ ", " := by
  have hnonempty := s.selectClause_ne_empty q
  have hplain : s.selectClause q ++ ", " = q.selectWords ++ s.columns q.selected ++ ", " := by
    rw [s.selectClause_eq]
  unfold numberedColumns qualifiedColumns
  cases q.source with
  | none => simp only [hnonempty, ne_eq, not_false_eq_true, if_true, hplain]
  | some table =>
    simp only
    split
    · next hstar =>
      obtain ⟨columns, last, hselected⟩ :=
        (List.eq_nil_or_concat q.selected).resolve_left q.selected_ne_nil
      rw [List.concat_eq_append] at hselected
      have hclause : s.selectClause q = s.beforeColumn q columns ++ s.column last := by
        rw [s.selectClause_eq, hselected, s.selectWords_append_columns]
      rw [hclause] at hstar
      rw [hselected, columns_qualifyLast s q _ hstar, hclause]
      simp only [String.append_assoc]
      rfl
    · exact hplain

/-! ## The numbered form -/

namespace Connection

variable (c : Connection) (q : Query)

/-- The query in which the row number is one of the columns; its rows are neither ordered nor
limited. -/
def numberedForm : Query :=
  { q with
    columns := some (qualifiedColumns c.spelling q ++ [rowNumber c.spelling q.orders])
    orders := []
    limit := none
    offset := none }

variable {c}

theorem qualifiedColumns_ne_nil (s : Spelling) : qualifiedColumns s q ≠ [] := by
  have hselected := q.selected_ne_nil
  unfold qualifiedColumns
  split
  · split
    · obtain ⟨columns, last, hlast⟩ := (List.eq_nil_or_concat q.selected).resolve_left hselected
      simp [qualifyLast, hlast]
    · exact hselected
  · exact hselected

theorem selected_numberedForm :
    (c.numberedForm q).selected =
      qualifiedColumns c.spelling q ++ [rowNumber c.spelling q.orders] := by
  cases hqualified : qualifiedColumns c.spelling q with
  | nil => exact absurd hqualified (qualifiedColumns_ne_nil q c.spelling)
  | cons column columns => simp only [numberedForm, Query.selected, hqualified, List.cons_append]

/-- The select clause of the numbered form is the one to which the row number is added. -/
theorem selectClause_numberedForm :
    c.dialect.selectClause (c.numberedForm q) =
      overClause ((c.dialect.fragments q).orders.getD "order by 1")
        (numberedColumns c.spelling (c.dialect.fragments q).columns q.source) := by
  have horders : (c.dialect.fragments q).orders.getD "order by 1" =
      if q.orders.isEmpty then "order by 1" else c.spelling.orderClause q.orders := by
    simp only [Dialect.fragments, Dialect.fragmentsWith]
    split <;> rfl
  have hcolumns : (c.dialect.fragments q).columns = some (c.spelling.selectClause q) := rfl
  have hspelling : c.dialect.selectClause (c.numberedForm q) =
      c.spelling.selectClause (c.numberedForm q) := rfl
  rw [hspelling, Spelling.selectClause_eq, selected_numberedForm, Spelling.columns_append _
    (qualifiedColumns_ne_nil q _) (List.cons_ne_nil _ _), Spelling.columns_singleton, horders,
    hcolumns, numberedColumns_eq, overClause, rowNumber, Spelling.column]
  simp only [String.append_assoc]
  rfl

section Compatibility

variable (hcompat : c.settings.offsetCompatibility = true)

include hcompat

theorem shown_offset (offset : Option UInt64) :
    Fragments.shown (offset.map c.dialect.offset) = [] := by
  cases offset with
  | none => rfl
  | some rows => simp [dialect, hcompat, Fragments.shown]

/-- The statement of a query whose rows are not numbered joins its clauses. -/
theorem select_eq_concatenate (hoffset : activeOffset? q = none) :
    c.dialect.select q = (c.dialect.fragments q).concatenate := by
  rw [Dialect.select_eq]
  simp only [dialect, numberedOffset?, hcompat, if_true, hoffset]

theorem select_eq_paginate {offset : UInt64} (hoffset : activeOffset? q = some offset) :
    c.dialect.select q = paginate c.spelling q offset (c.dialect.fragments q) := by
  rw [Dialect.select_eq]
  simp only [dialect, numberedOffset?, hcompat, if_true, hoffset]

/-- A limit that does not come with an offset stands behind the statement without it. -/
theorem select_eq_unlimited (hoffset : activeOffset? q = none) :
    c.dialect.select q = c.dialect.select q.unlimited ++
      q.limit.elim "" fun rows => " FETCH FIRST " ++ rows.toNat.repr ++ " ROWS ONLY" := by
  rw [select_eq_concatenate q hcompat hoffset, select_eq_concatenate q.unlimited hcompat rfl]
  have hshown : Fragments.shown (c.dialect.fragments q).offset = [] := shown_offset hcompat q.offset
  cases hlimit : q.limit with
  | none =>
    rw [Option.elim_none, String.append_empty]
    refine Fragments.concatenate_congr fun p => ?_
    cases p with
    | limit => simp only [Fragments.get?, Dialect.fragments, Dialect.fragmentsWith, hlimit,
        Query.unlimited, Option.map_none]
    | offset => exact hshown
    | _ => rfl
  | some rows =>
    have hfetch : (c.dialect.fragments q).limit =
        some ("FETCH FIRST " ++ rows.toNat.repr ++ " ROWS ONLY") := by
      simp only [Dialect.fragments, Dialect.fragmentsWith, hlimit, Option.map_some, dialect,
        hcompat, if_true]
    have hcolumns : Fragments.shown (c.dialect.fragments q).columns ≠ [] := by
      have hclause := c.dialect.selectClause_ne_empty q
      simp [Dialect.fragments, Dialect.fragmentsWith, Fragments.shown, hclause]
    have hrest : ((c.dialect.fragments q).erase .limit).concatenate =
        (c.dialect.fragments q.unlimited).concatenate := by
      refine Fragments.concatenate_congr fun p => ?_
      cases p with
      | offset => exact hshown
      | _ => rfl
    rw [Fragments.concatenate_limit hcolumns hfetch (by simp [← String.toList_inj]) hshown, hrest,
      Option.elim_some]
    simp only [String.append_assoc]
    rfl

/-- The clauses between which the rows are numbered are those of the numbered form. -/
theorem concatenate_numberedForm :
    (((((c.dialect.fragments q).erase .orders).erase .limit).insert .columns
      (overClause ((c.dialect.fragments q).orders.getD "order by 1")
        (numberedColumns c.spelling (c.dialect.fragments q).columns q.source))).concatenate) =
      c.dialect.select (c.numberedForm q) := by
  rw [select_eq_concatenate (c.numberedForm q) hcompat rfl]
  refine Fragments.concatenate_congr fun p => ?_
  cases p with
  | columns =>
    rw [← selectClause_numberedForm]
    rfl
  | offset => exact shown_offset hcompat q.offset
  | _ => rfl

/-- The rows behind an offset are kept from the statement of the numbered form. -/
theorem select_eq_numberedRows {offset : UInt64} (hoffset : q.offset = some offset)
    (hactive : 0 < offset) :
    c.dialect.select q = numberedRows (c.dialect.select (c.numberedForm q))
      (RowRange.of offset q.limit).text := by
  have hactive? : activeOffset? q = some offset := by simp [activeOffset?, hoffset, hactive]
  rw [select_eq_paginate q hcompat hactive?, ← concatenate_numberedForm q hcompat]
  rfl

/-- **The statement of a query is the plain statement of another one.** Without an offset it is that
of the query without its limit, and a limit stands behind it. With an offset it is that of the
numbered form, inside a statement that keeps a range of row numbers. -/
theorem select_eq_select_numberedForm (q : Query) :
    (q.offset = none ∨ q.offset = some 0 →
      c.dialect.select q = c.dialect.select q.unlimited ++
        q.limit.elim "" fun rows => " FETCH FIRST " ++ rows.toNat.repr ++ " ROWS ONLY") ∧
    ∀ offset : UInt64, q.offset = some offset → 0 < offset →
      c.dialect.select q = "select * from (" ++ c.dialect.select (c.numberedForm q) ++
        ") as temp_table where row_num " ++ (RowRange.of offset q.limit).text := by
  constructor
  · intro hoffset
    refine select_eq_unlimited q hcompat ?_
    rcases hoffset with hoffset | hoffset <;> simp [activeOffset?, hoffset]
  · intro offset hoffset hactive
    have hactive? : activeOffset? q = some offset := by simp [activeOffset?, hoffset, hactive]
    rw [select_eq_paginate q hcompat hactive?, ← concatenate_numberedForm q hcompat]
    rfl

end Compatibility

/-- A page of distinct rows from an aliased table, with a wildcard behind another column. -/
def distinctPage (offset : UInt64) : Query :=
  Query.build
    [.source "orders as o", .distinct, .select ["o.state", "*"],
      .join .left "customers as c" "c.id" "=" "o.customer_id",
      .inList (.named "o.state") [.literal (.text "open")] false,
      .groupBy ["o.state"], .having "o.state" "<>" (.literal (.text "void")),
      .orderByRaw "abs(total - ?)" [.int 50], .limit 10, .offset offset]

theorem select_eq_select_numberedForm_distinctPage :
    ({} : Connection).settings.offsetCompatibility = true ∧
    (distinctPage 0).offset = some 0 ∧ (distinctPage 20).offset = some 20 ∧ (0 : UInt64) < 20 ∧
    (({} : Connection).numberedForm (distinctPage 20)).columns =
      some [.named "o.state", .raw "\"o\".*",
        .raw "row_number() over (order by abs(total - ?)) as row_num"] ∧
    ({} : Connection).dialect.select (distinctPage 0) =
      ({} : Connection).dialect.select (distinctPage 0).unlimited ++
        " FETCH FIRST 10 ROWS ONLY" ∧
    ({} : Connection).dialect.select (distinctPage 20) =
      "select * from (" ++
        ({} : Connection).dialect.select (({} : Connection).numberedForm (distinctPage 20)) ++
        ") as temp_table where row_num " ++ "between 21 and 30" := by
  have hpage := select_eq_select_numberedForm (c := {}) rfl
  refine ⟨rfl, rfl, rfl, by decide, by decide, ?_, ?_⟩
  · exact (hpage (distinctPage 0)).1 (.inr rfl)
  · exact (hpage (distinctPage 20)).2 20 rfl (by decide)

end Connection

end Db2

end SqlDialect
