import SqlDialect.Proofs.Names.Pieces
import SqlDialect.Proofs.NumberedForm

/-!
# Wildcards beside a row number

A wildcard cannot share a select list with another column, so the one at the end of the list is
qualified when the row number is put behind it (`Db2.qualifiedText`). Only the end of the list is
looked at: a wildcard in front of other columns stays bare, beside the row number. No other name is
written as an asterisk (`Db2.Connection.columnName_eq_asterisk_iff`), so the list is without a bare
wildcard exactly if no name but the last is one (`Db2.Connection.asterisk_mem_numberedList_iff`).
-/

namespace SqlDialect

/-! ## Selected names -/

namespace Query

variable {q : Query}

theorem selected_of_eq_nil (h : q.columns.getD [] = []) : q.selected = [.raw "*"] := by
  rcases hcolumns : q.columns with _ | _ | ⟨column, columns⟩
  · simp [selected, hcolumns]
  · simp [selected, hcolumns]
  · simp [hcolumns] at h

theorem selected_of_ne_nil (h : q.columns.getD [] ≠ []) : q.selected = q.columns.getD [] := by
  rcases hcolumns : q.columns with _ | _ | ⟨column, columns⟩
  · simp [hcolumns] at h
  · simp [hcolumns] at h
  · simp [selected, hcolumns]

/-- The last of the selected names, or the wildcard in place of none. -/
theorem selected_of_names {names : List String}
    (hnames : q.columns.getD [] = names.map Column.named) :
    q.selected = names.dropLast.map Column.named ++
      [names.getLast?.elim (.raw "*") Column.named] := by
  rcases List.eq_nil_or_concat names with rfl | ⟨front, name, rfl⟩
  · exact selected_of_eq_nil hnames
  · have hne : q.columns.getD [] ≠ [] := by simp [hnames]
    rw [selected_of_ne_nil hne, hnames]
    simp

end Query

/-! ## Names that are written as an asterisk -/

theorem ne_asterisk_of_mem {text : String} {c : Char} (h : c ∈ text.toList) (hc : c ≠ '*') :
    text ≠ "*" := by
  rintro rfl
  exact hc (List.mem_singleton.1 h)

namespace Identifier

theorem doubled_eq_asterisk_iff {text : String} : doubled text = "*" ↔ text = "*" := by
  have hchars : doubledChars text.toList = ['*'] ↔ text.toList = ['*'] := by
    rcases text.toList with _ | ⟨c, cs⟩
    · simp [doubledChars]
    · by_cases hc : c = '"'
      · simp [doubledChars, hc]
      · rw [doubledChars, if_neg hc]
        rcases cs with _ | ⟨d, ds⟩
        · simp [doubledChars]
        · have hne : doubledChars (d :: ds) ≠ [] := by
            rw [doubledChars]
            split <;> exact List.cons_ne_nil _ _
          simp [hne]
  rw [doubled, ← String.toList_inj, String.toList_ofList, ← String.toList_inj]
  exact hchars

theorem quoted_eq_asterisk_iff {segment : String} : quoted segment = "*" ↔ segment = "*" := by
  rw [quoted]
  split
  · exact Iff.rfl
  · next hsegment =>
    exact iff_of_false (ne_asterisk_of_mem (c := '"') (by simp) (by decide)) hsegment

theorem eq_of_segments_eq_singleton {name segment : String} (h : segments name = [segment]) :
    name = segment := by
  rw [segments_eq, dotSplit, List.map_eq_singleton_iff] at h
  obtain ⟨text, htext, rfl⟩ := h
  have hjoined : ['.'].intercalate (name.toList.splitOn '.') = name.toList :=
    List.intercalate_splitOn '.'
  rw [htext, List.intercalate_singleton] at hjoined
  rw [hjoined, String.ofList_toList]

theorem length_prefixOwner (pre : String) (segments : List String) :
    (prefixOwner pre segments).length = segments.length := by
  rw [prefixOwner_eq]
  split
  · exact List.length_modify _ _ _
  · rfl

end Identifier

theorem Spelling.path_ne_asterisk (s : Spelling) {segments : List String}
    (h : 2 ≤ segments.length) : s.path segments ≠ "*" := by
  obtain ⟨first, second, rest, rfl⟩ : ∃ first second rest, segments = first :: second :: rest := by
    rcases segments with _ | ⟨first, _ | ⟨second, rest⟩⟩
    · simp at h
    · simp at h
    · exact ⟨first, second, rest, rfl⟩
  refine ne_asterisk_of_mem (c := '.') ?_ (by decide)
  simp [Spelling.path, String.intercalate_cons_cons]

namespace Db2

open Identifier

namespace Connection

variable (c : Connection)

theorem quote_eq_asterisk_iff {segment : String} : c.quote segment = "*" ↔ segment = "*" := by
  rw [quote]
  split
  · exact quoted_eq_asterisk_iff
  · exact doubled_eq_asterisk_iff

theorem columnPath_eq_asterisk_iff {name : String} :
    c.spelling.columnPath name = "*" ↔ name = "*" := by
  rw [Spelling.columnPath]
  rcases hsegments : segments name with _ | ⟨segment, _ | ⟨next, rest⟩⟩
  · rw [segments_eq] at hsegments
    exact absurd hsegments (dotSplit_ne_nil name)
  · rw [eq_of_segments_eq_singleton hsegments]
    have hpath : c.spelling.path (prefixOwner c.spelling.tablePrefix [segment]) = c.quote segment :=
      String.intercalate_singleton
    rw [hpath]
    exact c.quote_eq_asterisk_iff
  · refine iff_of_false (c.spelling.path_ne_asterisk ?_) ?_
    · rw [length_prefixOwner]
      simp
    · rintro rfl
      have hone : segments "*" = ["*"] := by decide
      rw [hone] at hsegments
      cases hsegments

/-- **Only the wildcard is written as an asterisk.** -/
theorem columnName_eq_asterisk_iff {name : String} :
    c.spelling.columnName name = "*" ↔ name = "*" := by
  rw [Spelling.columnName]
  cases hsplit : splitAlias? name with
  | none => exact c.columnPath_eq_asterisk_iff
  | some parts =>
    obtain ⟨before, byname⟩ := parts
    refine iff_of_false (ne_asterisk_of_mem (c := ' ') (by simp) (by decide)) ?_
    rintro rfl
    have hnone : splitAlias? "*" = none := by decide
    rw [hnone] at hsplit
    cases hsplit

end Connection

/-! ## The last column -/

/-- Behind a blank, only the text itself tells whether a wildcard ends it. -/
theorem endsInWildcard_append {front : String} (h : front.toList.getLast? = some ' ')
    (text : String) : endsInWildcard (front ++ text) = endsInWildcard (" " ++ text) := by
  obtain ⟨before, hbefore⟩ := List.getLast?_eq_some_iff.1 h
  have hblank : (" " : String).toList = [' '] := rfl
  rw [endsInWildcard, endsInWildcard, Bool.eq_iff_iff, List.isSuffixOf_iff_suffix,
    List.isSuffixOf_iff_suffix, String.toList_append, String.toList_append, hbefore, hblank,
    List.append_assoc]
  generalize text.toList = chars
  refine ⟨fun hends => ?_, fun hends => hends.trans (List.suffix_append _ _)⟩
  cases chars with
  | nil =>
    obtain ⟨rest, hrest⟩ := hends
    have hlast := congrArg List.getLast? hrest
    simp at hlast
  | cons c cs => exact List.suffix_of_suffix_length_le hends (List.suffix_append _ _) (by simp)

/-- The text of the last column in front of a row number: the wildcard that it is, or that it ends in
behind a blank, is qualified by the name by which the table is known. -/
def qualifiedText (s : Spelling) (table text : String) : String :=
  if endsInWildcard (" " ++ text) then
    replaceAsterisk text (s.table (correlationName table) ++ ".*")
  else text

section Qualified

variable (s : Spelling) (table : String)

theorem qualifiedText_asterisk :
    qualifiedText s table "*" = s.table (correlationName table) ++ ".*" := by
  have hwildcard : endsInWildcard (" " ++ "*") = true := by decide
  rw [qualifiedText, if_pos hwildcard]
  simp [replaceAsterisk]

theorem qualifiedText_ne_asterisk (text : String) : qualifiedText s table text ≠ "*" := by
  rw [qualifiedText]
  split
  · next hwildcard =>
    obtain ⟨front, hfront⟩ := List.isSuffixOf_iff_suffix.1 hwildcard
    have hstar : text.toList.getLast? = some '*' := by
      have hlast := congrArg List.getLast? hfront
      rcases hchars : text.toList with _ | ⟨c, cs⟩
      · simp [hchars] at hlast
      · simpa [hchars] using hlast.symm
    refine ne_asterisk_of_mem (c := '.') ?_ (by decide)
    simp [replaceAsterisk, hstar]
  · next hwildcard =>
    rintro rfl
    exact hwildcard (by decide)

end Qualified

/-- The columns in front of the last one are not changed, and its text is qualified. -/
theorem qualifiedColumns_eq {s : Spelling} {q : Query} {table : String}
    (hsource : q.source = some table) {columns : List Column} {last : Column}
    (hselected : q.selected = columns ++ [last]) :
    (qualifiedColumns s q).map s.column =
      columns.map s.column ++ [qualifiedText s table (s.column last)] := by
  have hends : endsInWildcard (s.selectClause q) = endsInWildcard (" " ++ s.column last) := by
    rw [s.selectClause_eq, hselected, s.selectWords_append_columns,
      endsInWildcard_append (s.getLast?_beforeColumn q columns)]
  simp only [qualifiedColumns, hsource, hends, qualifiedText]
  split
  · simp [qualifyLast, hselected, Spelling.column]
  · simp [hselected]

/-! ## The list with the row number -/

namespace Connection

variable (c : Connection) (q : Query)

/-- The written columns of the statement in which rows are numbered; the row number is the last. -/
def numberedList : List String :=
  (qualifiedColumns c.spelling q ++ [rowNumber c.spelling q.orders]).map c.spelling.column

variable {c q}

theorem selectClause_numberedForm_eq :
    c.spelling.selectClause (c.numberedForm q) =
      q.selectWords ++ ", ".intercalate (c.numberedList q) := by
  rw [Spelling.selectClause_eq, selected_numberedForm]
  rfl

/-- The numbered list stands at the beginning of the statement, in front of the source. -/
theorem select_eq_numberedList (hcompat : c.settings.offsetCompatibility = true) {table : String}
    (hsource : q.source = some table) {offset : UInt64} (hoffset : q.offset = some offset)
    (hactive : 0 < offset) :
    ∃ rest, c.dialect.select q = "select * from (" ++ q.selectWords ++
      ", ".intercalate (c.numberedList q) ++ " from " ++ c.spelling.table table ++ rest := by
  have hcolumns : (c.dialect.fragments (c.numberedForm q)).columns =
      some (q.selectWords ++ ", ".intercalate (c.numberedList q)) := by
    rw [← selectClause_numberedForm_eq]
    rfl
  have hfrom : (c.dialect.fragments (c.numberedForm q)).source =
      some ("from " ++ c.spelling.table table) := by
    simp only [Dialect.fragments, Dialect.fragmentsWith, numberedForm, hsource, Option.map_some]
    rfl
  obtain ⟨rest, hrest⟩ := Fragments.concatenate_columns_source hcolumns hfrom
    (selectClause_numberedForm_eq (c := c) ▸ c.spelling.selectClause_ne_empty _)
    (by simp [← String.toList_inj])
  have hblank : " from " = " " ++ "from " := by simp
  refine ⟨rest ++ (") as temp_table where row_num " ++ (RowRange.of offset q.limit).text), ?_⟩
  rw [select_eq_numberedRows q hcompat hoffset hactive,
    select_eq_concatenate (c.numberedForm q) hcompat rfl, hrest, hblank]
  unfold numberedRows
  simp only [String.append_assoc]

theorem rowNumber_ne_asterisk (keys : List SortKey) :
    c.spelling.column (rowNumber c.spelling keys) ≠ "*" := by
  refine ne_asterisk_of_mem (c := ' ') ?_ (by decide)
  simp [rowNumber, Spelling.column]

/-- What the numbered list holds: the columns in front as they are written, the last one, and the row
number. -/
theorem numberedList_eq {table : String} (hsource : q.source = some table) {columns : List Column}
    {last : Column} (hselected : q.selected = columns ++ [last]) :
    c.numberedList q = columns.map c.spelling.column ++
      [qualifiedText c.spelling table (c.spelling.column last),
        c.spelling.column (rowNumber c.spelling q.orders)] := by
  rw [numberedList, List.map_append, qualifiedColumns_eq hsource hselected, List.append_assoc]
  rfl

/-- Only what is in front of the last column can be written as an asterisk in the numbered list. -/
theorem asterisk_mem_numberedList {table : String} (hsource : q.source = some table)
    {columns : List Column} {last : Column} (hselected : q.selected = columns ++ [last]) :
    "*" ∈ c.numberedList q ↔ "*" ∈ columns.map c.spelling.column := by
  have hlast := qualifiedText_ne_asterisk c.spelling table (c.spelling.column last)
  have hrow := rowNumber_ne_asterisk (c := c) q.orders
  rw [numberedList_eq hsource hselected, List.mem_append, List.mem_cons, List.mem_singleton]
  simp only [hlast.symm, hrow.symm, or_false]

/-- **Bare wildcards beside a row number.** The list with the row number stands at the beginning of
the statement. In front it holds the selected names as they are written. Only the last one is
qualified: a wildcard at the end, or that of all columns if none is selected, by the name by which
the table is known. So a bare wildcard is in the list exactly if it is among the names and not the
last. -/
theorem asterisk_mem_numberedList_iff (hcompat : c.settings.offsetCompatibility = true)
    {table : String} (hsource : q.source = some table) {offset : UInt64}
    (hoffset : q.offset = some offset) (hactive : 0 < offset) {names : List String}
    (hnames : q.columns.getD [] = names.map Column.named) :
    (∃ rest, c.dialect.select q = "select * from (" ++ q.selectWords ++
      ", ".intercalate (c.numberedList q) ++ " from " ++ c.spelling.table table ++ rest) ∧
    c.numberedList q = names.dropLast.map c.spelling.columnName ++
      [qualifiedText c.spelling table (names.getLast?.elim "*" c.spelling.columnName),
        c.spelling.column (rowNumber c.spelling q.orders)] ∧
    (names = [] ∨ names.getLast? = some "*" →
      qualifiedText c.spelling table (names.getLast?.elim "*" c.spelling.columnName) =
        c.spelling.table (correlationName table) ++ ".*") ∧
    ("*" ∈ c.numberedList q ↔ "*" ∈ names.dropLast) := by
  have hselected := Query.selected_of_names hnames
  have hwritten : (names.dropLast.map Column.named).map c.spelling.column =
      names.dropLast.map c.spelling.columnName := List.map_map
  have hlast : c.spelling.column (names.getLast?.elim (.raw "*") Column.named) =
      names.getLast?.elim "*" c.spelling.columnName := by
    cases names.getLast? <;> rfl
  refine ⟨select_eq_numberedList hcompat hsource hoffset hactive, ?_, ?_, ?_⟩
  · rw [numberedList_eq hsource hselected, hwritten, hlast]
  · have hasterisk : c.spelling.columnName "*" = "*" := c.columnName_eq_asterisk_iff.2 rfl
    rintro (rfl | hend)
    · exact qualifiedText_asterisk c.spelling table
    · rw [hend, Option.elim_some, hasterisk, qualifiedText_asterisk]
  · rw [asterisk_mem_numberedList hsource hselected, hwritten, List.mem_map]
    simp only [columnName_eq_asterisk_iff, exists_eq_right]

/-- A page of orders with the selected names. -/
def orderPage (names : List String) : Query :=
  Query.build [.source "orders as o", .select names, .orderBy "o.id" .ascending, .offset 20]

theorem asterisk_mem_numberedList_iff_orderPage :
    ({} : Connection).settings.offsetCompatibility = true ∧
    (orderPage ["o.state", "*"]).source = some "orders as o" ∧
    (orderPage ["o.state", "*"]).offset = some 20 ∧ (0 : UInt64) < 20 ∧
    (orderPage ["o.state", "*"]).columns.getD [] = ["o.state", "*"].map Column.named ∧
    "*" ∉ ({} : Connection).numberedList (orderPage ["o.state", "*"]) ∧
    ({} : Connection).numberedList (orderPage ["o.state", "*"]) =
      ["\"o\".\"state\"", "\"o\".*", "row_number() over (order by \"o\".\"id\" asc) as row_num"] ∧
    "*" ∈ ({} : Connection).numberedList (orderPage ["*", "o.state", "*"]) := by
  have htailNames : (orderPage ["o.state", "*"]).columns.getD [] =
      ["o.state", "*"].map Column.named := rfl
  have hfrontNames : (orderPage ["*", "o.state", "*"]).columns.getD [] =
      ["*", "o.state", "*"].map Column.named := rfl
  have htail := asterisk_mem_numberedList_iff (c := {}) rfl rfl rfl (by decide) htailNames
  have hfront := asterisk_mem_numberedList_iff (c := {}) rfl rfl rfl (by decide) hfrontNames
  obtain ⟨-, hlist, hlast, hbare⟩ := htail
  rw [hlast (.inr rfl)] at hlist
  exact ⟨rfl, rfl, rfl, by decide, htailNames, mt hbare.1 (by decide),
    hlist.trans (by decide +kernel), hfront.2.2.2.2 (by decide)⟩

/-- A wildcard in front of a name stays bare, and stands in the same list as the row number. -/
theorem asterisk_mem_numberedList_wildcardFirst :
    ({} : Connection).dialect.select
        (Query.build [.source "users", .select ["*", "id"], .offset 3]) =
      "select * from (select *, \"id\", row_number() over (order by 1) as row_num " ++
        "from \"users\") as temp_table where row_num >= 4" ∧
    ({} : Connection).numberedList
        (Query.build [.source "users", .select ["*", "id"], .offset 3]) =
      ["*", "\"id\"", "row_number() over (order by 1) as row_num"] ∧
    ¬ ∀ (c : Connection) (q : Query) (table : String) (offset : UInt64) (names : List String),
      c.settings.offsetCompatibility = true → q.source = some table → q.offset = some offset →
      0 < offset → q.columns.getD [] = names.map Column.named → "*" ∉ c.numberedList q := by
  have hlist : ({} : Connection).numberedList
      (Query.build [.source "users", .select ["*", "id"], .offset 3]) =
      ["*", "\"id\"", "row_number() over (order by 1) as row_num"] := by decide +kernel
  refine ⟨by decide +kernel, hlist, fun hall => ?_⟩
  refine hall {} (Query.build [.source "users", .select ["*", "id"], .offset 3]) "users" 3
    ["*", "id"] rfl rfl rfl (by decide) rfl ?_
  rw [hlist]
  exact List.mem_cons_self

end Connection

end Db2

end SqlDialect
