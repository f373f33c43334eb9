import SqlDialect.Proofs.Wildcards

/-!
# The name by which a table is known

A table is known by its alias, or by its own name if it has none (`Db2.correlationName`). Three
places have to agree on it: the clause that names the table, the columns that are referred to as
its columns, and the wildcard that is qualified beside a row number. They do, wherever the prefix of
tables goes (`Db2.written_correlationName`): what the clause introduces is the written table, and
columns and wildcard begin with the same text.
-/

namespace SqlDialect

namespace Identifier

/-! ## Texts without an alias -/

/-- Whether ` as ` stands anywhere in a text, in any case of its two letters. -/
def MentionsAs (text : String) : Prop :=
  ∃ mark, mark <:+: text.toList ∧ mark.map Char.toLower = [' ', 'a', 's', ' ']

theorem toLower_eq_blank_iff {c : Char} : c.toLower = ' ' ↔ c = ' ' :=
  Text.toLower_eq_iff rfl rfl

theorem dropAs?_eq_some_iff {text rest : List Char} : dropAs? text = some rest ↔
    ∃ mark, mark.map Char.toLower = [' ', 'a', 's', ' '] ∧ text = mark ++ rest := by
  constructor
  · intro h
    unfold dropAs? at h
    split at h
    · next a s rest' =>
      split at h
      · next has =>
        cases h
        exact ⟨[' ', a, s, ' '], by simp [has], rfl⟩
      · cases h
    · cases h
  · rintro ⟨mark, hmark, rfl⟩
    simp only [List.map_eq_cons_iff, List.map_eq_nil_iff, toLower_eq_blank_iff] at hmark
    obtain ⟨_, _, rfl, rfl, a, _, rfl, ha, s, _, rfl, hs, _, _, rfl, rfl, rfl⟩ := hmark
    exact if_pos ⟨ha, hs⟩

/-- **A name has an alias exactly if ` as ` stands in it.** -/
theorem splitAlias?_eq_none_iff {text : String} : splitAlias? text = none ↔ ¬ MentionsAs text := by
  rw [splitAlias?, Option.map_eq_none_iff, splitAliasChars?, Option.map_eq_none_iff,
    cutAs?_eq_none_iff]
  constructor
  · rintro hnone ⟨mark, hpart, hmark⟩
    obtain ⟨here, ⟨rest, hrest⟩, hsuffix⟩ := List.infix_iff_prefix_suffix.1 hpart
    have hsome : dropAs? here = some rest := dropAs?_eq_some_iff.2 ⟨mark, hmark, hrest.symm⟩
    rw [hnone here hsuffix] at hsome
    cases hsome
  · intro hnot here hsuffix
    cases hdrop : dropAs? here with
    | none => rfl
    | some rest =>
      obtain ⟨mark, hmark, rfl⟩ := dropAs?_eq_some_iff.1 hdrop
      exact absurd ⟨mark, (List.prefix_append mark rest).isInfix.trans hsuffix.isInfix, hmark⟩ hnot

theorem not_mentionsAs_of_append {text rest : String} (h : ¬ MentionsAs (text ++ rest)) :
    ¬ MentionsAs text := by
  rintro ⟨mark, hpart, hmark⟩
  refine h ⟨mark, hpart.trans ?_, hmark⟩
  rw [String.toList_append]
  exact (List.prefix_append _ _).isInfix

/-! ## The last segment -/

theorem segments_append_dot (owner : String) {column : String} (h : '.' ∉ column.toList) :
    segments (owner ++ "." ++ column) = segments owner ++ [column] := by
  have hchars : (owner ++ "." ++ column).toList = owner.toList ++ '.' :: column.toList := by simp
  rw [segments_eq, segments_eq, dotSplit, dotSplit, hchars, List.splitOn,
    List.splitOnP_append_cons _ _ (by simp), ← List.splitOn, ← List.splitOn,
    List.splitOn_eq_singleton h]
  simp

/-- The prefix of a column goes before the table that it belongs to. -/
theorem prefixOwner_append_singleton (pre column : String) {owner : List String} (h : owner ≠ []) :
    prefixOwner pre (owner ++ [column]) = prefixLast pre owner ++ [column] := by
  induction owner with
  | nil => exact absurd rfl h
  | cons segment owner ih =>
    cases owner with
    | nil => rfl
    | cons next owner =>
      have hbehind := ih (List.cons_ne_nil _ _)
      have howner : prefixOwner pre (segment :: (next :: owner ++ [column])) =
          segment :: prefixOwner pre (next :: owner ++ [column]) := by
        rw [prefixOwner]
        simp
      have htable : prefixLast pre (segment :: next :: owner) =
          segment :: prefixLast pre (next :: owner) := by
        rw [prefixLast]
        simp
      rw [List.cons_append, howner, hbehind, htable, List.cons_append]

end Identifier

/-! ## Written tables and their columns -/

namespace Spelling

open Identifier

variable (s : Spelling)

theorem table_of_splitAlias? {table name byname : String}
    (h : splitAlias? table = some (name, byname)) :
    s.table table = s.tablePath name ++ " as " ++ s.table byname := by
  obtain ⟨piece, pieces, hpieces⟩ := List.exists_cons_of_ne_nil (aliasPieces_ne_nil byname)
  rw [Spelling.table, Spelling.table, aliasChain_eq, aliasChain_eq, aliasPieces_of_some h, hpieces,
    List.map_cons, List.map_cons, String.intercalate_cons_cons]

theorem table_of_not_mentionsAs {name : String} (h : ¬ MentionsAs name) :
    s.table name = s.tablePath name := by
  rw [Spelling.table, aliasChain_eq, aliasPieces_of_none (splitAlias?_eq_none_iff.2 h)]
  exact String.intercalate_singleton

/-- **A column of a table begins with the table as it is written.** -/
theorem columnName_append_dot {owner column : String} (hcolumn : '.' ∉ column.toList)
    (h : ¬ MentionsAs (owner ++ "." ++ column)) :
    s.columnName (owner ++ "." ++ column) = s.table owner ++ "." ++ s.quote column := by
  have howner : ¬ MentionsAs owner :=
    not_mentionsAs_of_append (not_mentionsAs_of_append h)
  have hsegments : segments owner ≠ [] := segments_eq owner ▸ dotSplit_ne_nil owner
  have hprefixed : prefixLast s.tablePrefix (segments owner) ≠ [] := by
    rw [prefixLast_eq _ hsegments]
    simpa [prefixAt] using hsegments
  rw [columnName, splitAlias?_eq_none_iff.2 h, s.table_of_not_mentionsAs howner]
  simp only [columnPath, tablePath, path, segments_append_dot owner hcolumn,
    prefixOwner_append_singleton _ _ hsegments, List.map_append]
  rw [String.intercalate_append_of_ne_nil (by simpa using hprefixed) (by simp)]
  simp

end Spelling

/-! ## The three places -/

namespace Db2

open Identifier

/-- A written table introduces a written name if it is that name, or ends in it behind ` as `. -/
def Introduces (written known : String) : Prop :=
  written = known ∨ ∃ table, written = table ++ " as " ++ known

/-- A clause introduces the name by which its table is known. -/
theorem introduces_correlationName (s : Spelling) (table : String) :
    Introduces (s.table table) (s.table (correlationName table)) := by
  rw [correlationName]
  split
  · next name byname hsplit => exact .inr ⟨s.tablePath name, s.table_of_splitAlias? hsplit⟩
  · exact .inl rfl

/-- The wildcard beside a row number is qualified by the name by which the table is known, and the
clause behind it names the table. -/
theorem select_eq_qualified {c : Connection} {q : Query}
    (hcompat : c.settings.offsetCompatibility = true) {table : String}
    (hsource : q.source = some table) {offset : UInt64} (hoffset : q.offset = some offset)
    (hactive : 0 < offset) {front : String} (hwildcard : c.dialect.selectClause q = front ++ " *") :
    ∃ order rest, c.dialect.select q = "select * from (" ++ (front ++ " " ++
      c.dialect.table (correlationName table) ++ ".*, row_number() over (" ++ order ++
      ") as row_num") ++ " from " ++ c.dialect.table table ++ rest := by
  obtain ⟨rest, hrest⟩ := Connection.select_eq_numberedList hcompat hsource hoffset hactive
  have hcut : dropAsterisks (front ++ " *") = front ++ " " := by
    have hlast := @dropAsterisks_append_asterisk (front ++ " ").toList (by simp)
    simpa [String.ofList_append, String.append_assoc] using hlast
  have hends : endsInWildcard (front ++ " *") = true :=
    List.isSuffixOf_iff_suffix.2 ⟨front.toList, by simp⟩
  have hcolumns : (c.dialect.fragments q).columns = some (front ++ " *") :=
    congrArg some hwildcard
  have hnumbered : c.spelling.selectClause (c.numberedForm q) =
      overClause ((c.dialect.fragments q).orders.getD "order by 1")
        (front ++ " " ++ c.dialect.table (correlationName table) ++ ".*, ") := by
    refine (Connection.selectClause_numberedForm q).trans ?_
    rw [hcolumns, hsource, numberedColumns, if_pos hends, hcut]
    rfl
  refine ⟨(c.dialect.fragments q).orders.getD "order by 1", rest, ?_⟩
  have hlist : "select * from (" ++ q.selectWords ++ ", ".intercalate (c.numberedList q) =
      "select * from (" ++ (front ++ " " ++ c.dialect.table (correlationName table) ++
        ".*, row_number() over (" ++ (c.dialect.fragments q).orders.getD "order by 1" ++
        ") as row_num") := by
    have hover : ".*, " ++ "row_number() over (" = ".*, row_number() over (" := by simp
    rw [String.append_assoc, ← Connection.selectClause_numberedForm_eq, hnumbered, overClause,
      ← hover]
    simp only [String.append_assoc]
  rw [hrest, hlist]
  rfl

/-- **Clauses, columns and wildcards agree on the name by which a table is known**, in every
dialect. The clause that names the table, be it the source or joined, introduces that name; a column
of it begins with the name as it is introduced; and so does the wildcard beside a row number. -/
theorem written_correlationName (table : String) :
    (∀ d : Dialect,
      Introduces (d.table table) (d.table (correlationName table)) ∧
      (∀ q : Query, q.source = some table →
        (d.fragments q).source = some ("from " ++ d.table table)) ∧
      (∀ j : Join, j.table = table → ∃ on, (on = "" ∨ ∃ tests, on = " on " ++ tests) ∧
        d.join j = j.kind.text ++ " join " ++ d.table table ++ on) ∧
      ∀ column : String, '.' ∉ column.toList →
        ¬ MentionsAs (correlationName table ++ "." ++ column) →
        d.column (.named (correlationName table ++ "." ++ column)) =
          d.table (correlationName table) ++ "." ++ d.quote column) ∧
    ∀ (c : Connection) (q : Query) (offset : UInt64) (front : String),
      c.settings.offsetCompatibility = true → q.source = some table → q.offset = some offset →
      0 < offset → c.dialect.selectClause q = front ++ " *" →
      ∃ order rest, c.dialect.select q = "select * from (" ++ (front ++ " " ++
        c.dialect.table (correlationName table) ++ ".*, row_number() over (" ++ order ++
        ") as row_num") ++ " from " ++ c.dialect.table table ++ rest := by
  refine ⟨fun d => ⟨introduces_correlationName d.toSpelling table, ?_, ?_, ?_⟩, ?_⟩
  · intro q hsource
    simp only [Dialect.fragments, Dialect.fragmentsWith, hsource, Option.map_some]
  · rintro j rfl
    refine ⟨_, ?_, rfl⟩
    split
    · exact .inl rfl
    · exact .inr ⟨_, rfl⟩
  · intro column hcolumn hnot
    exact d.columnName_append_dot hcolumn hnot
  · intro c q offset front hcompat hsource hoffset hactive hwildcard
    exact select_eq_qualified hcompat hsource hoffset hactive hwildcard

/-- A connection that puts a prefix before tables. -/
def prefixedConnection : Connection := { settings := { tablePrefix := "app_" } }

/-- A page of orders, which are known by an alias. -/
def salesPage : Query :=
  Query.build [.source "sales.orders AS o", .join .left "stock s" "s.id" "=" "o.item", .offset 20]

theorem written_correlationName_salesPage :
    correlationName "sales.orders AS o" = "o" ∧
    prefixedConnection.dialect.table "sales.orders AS o" =
      "\"sales\".\"app_orders\" as \"app_o\"" ∧
    Introduces (prefixedConnection.dialect.table "sales.orders AS o")
      (prefixedConnection.dialect.table "o") ∧
    '.' ∉ "state".toList ∧ ¬ MentionsAs ("o" ++ "." ++ "state") ∧
    prefixedConnection.dialect.column (.named ("o" ++ "." ++ "state")) =
      prefixedConnection.dialect.table "o" ++ "." ++ prefixedConnection.dialect.quote "state" ∧
    salesPage.source = some "sales.orders AS o" ∧ salesPage.offset = some 20 ∧
    prefixedConnection.dialect.selectClause salesPage = "select" ++ " *" ∧
    ∃ order rest, prefixedConnection.dialect.select salesPage =
      "select * from (" ++ ("select" ++ " " ++ prefixedConnection.dialect.table "o" ++
        ".*, row_number() over (" ++ order ++ ") as row_num") ++ " from " ++
        prefixedConnection.dialect.table "sales.orders AS o" ++ rest := by
  have hknown : correlationName "sales.orders AS o" = "o" := by decide
  have hcolumn : '.' ∉ "state".toList := by decide
  have hnot : ¬ MentionsAs ("o" ++ "." ++ "state") := splitAlias?_eq_none_iff.1 (by decide)
  have hclause : prefixedConnection.dialect.selectClause salesPage = "select" ++ " *" := by
    decide +kernel
  have hagree := written_correlationName "sales.orders AS o"
  rw [hknown] at hagree
  obtain ⟨hdialect, hpage⟩ := hagree
  obtain ⟨hintroduces, -, -, hcolumns⟩ := hdialect prefixedConnection.dialect
  exact ⟨hknown, by decide +kernel, hintroduces, hcolumn, hnot, hcolumns "state" hcolumn hnot, rfl,
    rfl, hclause, hpage prefixedConnection salesPage 20 "select" rfl rfl rfl (by decide) hclause⟩

end Db2

end SqlDialect
