import SqlDialect.Db2.Dialect
import SqlDialect.Proofs.Names.Pieces

/-!
# Reading names back

How a database reads a written name: a quotation mark opens an identifier that goes on to the next
quotation mark that is not doubled, an asterisk outside of quotation marks is a wildcard, dots join
the segments of a path, and ` as ` stands between paths. `Identifier.read?` reads a text like this
and refuses every other character outside of quotation marks.

A written name is read as the paths that it consists of, whatever characters it has
(`Identifier.read?_column_and_table`). So no name ends its quotation marks early, and none is lost.
-/

namespace SqlDialect

namespace Identifier

/-! ## Reading -/

/-- A segment of a path as it is read. -/
inductive Segment
  | wildcard
  | identifier (text : String)
  deriving DecidableEq, Repr

/-- What a segment is read as once it is written. -/
def Segment.of (segment : String) : Segment :=
  if segment = "*" then .wildcard else .identifier segment

mutual

/-- The path that begins with a segment, and the paths behind it. -/
def readPath : List Char → Option (List Segment × List (List Segment))
  | '*' :: rest => (readRest rest).map fun (path, more) => (.wildcard :: path, more)
  | '"' :: rest => (readQuoted rest).map fun (text, path, more) =>
    (.identifier (String.ofList text) :: path, more)
  | _ => none

/-- The text up to the closing quotation mark, and what is read behind it. -/
def readQuoted : List Char → Option (List Char × List Segment × List (List Segment))
  | '"' :: '"' :: rest => (readQuoted rest).map fun (text, read) => ('"' :: text, read)
  | '"' :: rest => (readRest rest).map fun read => ([], read)
  | c :: rest => (readQuoted rest).map fun (text, read) => (c :: text, read)
  | [] => none

/-- The rest of a path behind one of its segments, and the paths behind it. -/
def readRest : List Char → Option (List Segment × List (List Segment))
  | '.' :: rest => readPath rest
  | ' ' :: 'a' :: 's' :: ' ' :: rest =>
    (readPath rest).map fun (path, more) => ([], path :: more)
  | [] => some ([], [])
  | _ => none

end

/-- The paths that the characters of a text make up. -/
def readPaths (text : List Char) : Option (List (List Segment)) :=
  (readPath text).map fun (path, more) => path :: more

/-- The paths that a text is read as. -/
def read? (text : String) : Option (List (List Segment)) := readPaths text.toList

/-! ## Reading what is written -/

/-- Doubled quotation marks do not end an identifier. -/
theorem readQuoted_doubledChars (text : List Char) {rest : List Char}
    (hrest : rest.head? ≠ some '"') :
    readQuoted (doubledChars text ++ '"' :: rest) =
      (readRest rest).map fun read => (text, read) := by
  induction text with
  | nil =>
    rw [doubledChars, List.nil_append, readQuoted]
    rintro rest' rfl
    exact hrest rfl
  | cons c cs ih =>
    by_cases hc : c = '"'
    · rw [doubledChars, if_pos hc, List.cons_append, List.cons_append, readQuoted, ih, hc,
        Option.map_map]
      rfl
    · rw [doubledChars, if_neg hc, List.cons_append, readQuoted, ih, Option.map_map]
      · rfl
      · rintro rest' rfl
        exact absurd rfl hc
      · rintro rfl
        exact absurd rfl hc

theorem readPath_quoted (segment : String) {rest : List Char} (hrest : rest.head? ≠ some '"') :
    readPath ((quoted segment).toList ++ rest) =
      (readRest rest).map fun (path, more) => (Segment.of segment :: path, more) := by
  by_cases hstar : segment = "*"
  · rw [hstar]
    exact readPath.eq_1 rest
  · have hquoted : (quoted segment).toList ++ rest =
        '"' :: (doubledChars segment.toList ++ '"' :: rest) := by
      simp [quoted, hstar, doubled]
    rw [hquoted, readPath, readQuoted_doubledChars _ hrest, Option.map_map, Segment.of,
      if_neg hstar]
    simp only [Function.comp_def, String.ofList_toList]

/-- The text of some segments with dots between them. -/
def writtenPath (segments : List String) : String := ".".intercalate (segments.map quoted)

/-- The text of some paths with ` as ` between them. -/
def writtenPaths (paths : List (List String)) : String := " as ".intercalate (paths.map writtenPath)

/-- What paths are read as once they are written. -/
def readBack (paths : List (List String)) : List (List Segment) :=
  paths.map fun path => path.map Segment.of

theorem readPath_writtenPath {segments : List String} (h : segments ≠ []) {rest : List Char}
    (hrest : rest.head? ≠ some '"') :
    readPath ((writtenPath segments).toList ++ rest) =
      (readRest rest).map fun (path, more) => (segments.map Segment.of ++ path, more) := by
  induction segments with
  | nil => exact absurd rfl h
  | cons segment segments ih =>
    cases segments with
    | nil => simpa [writtenPath] using readPath_quoted segment hrest
    | cons next segments =>
      have hwritten : (writtenPath (segment :: next :: segments)).toList ++ rest =
          (quoted segment).toList ++
            '.' :: ((writtenPath (next :: segments)).toList ++ rest) := by
        simp [writtenPath]
      rw [hwritten, readPath_quoted segment (by simp), readRest, ih (List.cons_ne_nil _ _),
        Option.map_map]
      rfl

/-- **Written paths are read back.** -/
theorem readPaths_writtenPaths {paths : List (List String)} (h : paths ≠ [])
    (hpaths : ∀ path ∈ paths, path ≠ []) :
    readPaths (writtenPaths paths).toList = some (readBack paths) := by
  induction paths with
  | nil => exact absurd rfl h
  | cons path paths ih =>
    obtain ⟨hpath, hpaths⟩ := List.forall_mem_cons.1 hpaths
    cases paths with
    | nil =>
      have hread := @readPath_writtenPath path hpath [] nofun
      rw [List.append_nil] at hread
      simp [readPaths, writtenPaths, hread, readRest, readBack]
    | cons next paths =>
      have hwritten : (writtenPaths (path :: next :: paths)).toList = (writtenPath path).toList ++
          ' ' :: 'a' :: 's' :: ' ' :: (writtenPaths (next :: paths)).toList := by
        simp [writtenPaths]
      have hmore := ih (List.cons_ne_nil _ _) hpaths
      obtain ⟨⟨path', more⟩, hread, hback⟩ := Option.map_eq_some_iff.1 hmore
      rw [readPaths, hwritten, readPath_writtenPath hpath (by simp), readRest, hread]
      simp only [Option.map_some, List.append_nil, hback]
      rfl

/-! ## The paths of names -/

/-- The path of a column: the segments of its name, with a prefix before the last but one, the
table, if there are two. -/
def columnPath (pre name : String) : List String :=
  if 2 ≤ (dotSplit name).length then prefixAt pre ((dotSplit name).length - 2) (dotSplit name)
  else dotSplit name

/-- The path of a table: the segments of its name, with a prefix before the last. -/
def tablePath (pre name : String) : List String :=
  prefixAt pre ((dotSplit name).length - 1) (dotSplit name)

/-- The paths of a column name: that of the column, and an alias of one segment. -/
def columnPaths (pre name : String) : List (List String) :=
  match splitAlias? name with
  | some (column, byname) => [columnPath pre column, [byname]]
  | none => [columnPath pre name]

/-- The paths of a table name: those of its pieces. -/
def tablePaths (pre name : String) : List (List String) := (aliasPieces name).map (tablePath pre)

theorem columnPath_ne_nil (pre name : String) : columnPath pre name ≠ [] := by
  have hsplit := dotSplit_ne_nil name
  unfold columnPath prefixAt
  split
  · simpa [List.modify_eq_nil_iff] using hsplit
  · exact hsplit

theorem tablePath_ne_nil (pre name : String) : tablePath pre name ≠ [] := by
  simpa [tablePath, prefixAt] using dotSplit_ne_nil name

end Identifier

/-! ## Dialects that quote names -/

/-- The dialects that write names between quotation marks: standard SQL, and that of a connection
unless they are turned off. -/
inductive Dialect.QuotesNames : Dialect → Prop
  | generic (tablePrefix : String) : (Dialect.generic tablePrefix).QuotesNames
  | db2 {c : Db2.Connection} (h : c.settings.quoteNames = true) : c.dialect.QuotesNames

namespace Spelling

open Identifier

variable {s : Spelling} (hs : s.quote = quoted)

include hs

theorem path_eq_writtenPath (segments : List String) : s.path segments = writtenPath segments := by
  rw [path, hs, writtenPath]

theorem columnPath_eq (name : String) :
    s.columnPath name = writtenPath (Identifier.columnPath s.tablePrefix name) := by
  rw [Spelling.columnPath, path_eq_writtenPath hs, prefixOwner_eq, segments_eq,
    Identifier.columnPath]

theorem tablePath_eq (name : String) :
    s.tablePath name = writtenPath (Identifier.tablePath s.tablePrefix name) := by
  have hne : segments name ≠ [] := segments_eq name ▸ dotSplit_ne_nil name
  rw [Spelling.tablePath, path_eq_writtenPath hs, prefixLast_eq _ hne, segments_eq,
    Identifier.tablePath]

theorem columnName_eq (name : String) :
    s.columnName name = writtenPaths (columnPaths s.tablePrefix name) := by
  unfold columnName columnPaths
  cases splitAlias? name with
  | none => simp [columnPath_eq hs, writtenPaths]
  | some parts =>
    obtain ⟨column, byname⟩ := parts
    simp [columnPath_eq hs, writtenPaths, writtenPath, hs]

theorem table_eq (name : String) :
    s.table name = writtenPaths (tablePaths s.tablePrefix name) := by
  rw [table, aliasChain_eq, writtenPaths, tablePaths, List.map_map]
  congr 1
  exact List.map_congr_left fun piece _ => tablePath_eq hs piece

end Spelling

namespace Identifier

/-- **Names are read back from what is written**, whatever characters they have: a column as its
path and its alias, and a table as the paths of its pieces. -/
theorem read?_column_and_table {d : Dialect} (hd : d.QuotesNames) (name : String) :
    read? (d.column (.named name)) = some (readBack (columnPaths d.tablePrefix name)) ∧
      read? (d.table name) = some (readBack (tablePaths d.tablePrefix name)) := by
  have hquote : d.quote = quoted := by
    cases hd with
    | generic tablePrefix => rfl
    | db2 h =>
      funext segment
      exact if_pos h
  constructor
  · have hname : d.column (.named name) = writtenPaths (columnPaths d.tablePrefix name) :=
      Spelling.columnName_eq hquote name
    rw [read?, hname]
    refine readPaths_writtenPaths ?_ ?_
    · unfold columnPaths
      split <;> exact List.cons_ne_nil _ _
    · unfold columnPaths
      split <;> simp [columnPath_ne_nil]
  · rw [read?, Spelling.table_eq hquote]
    refine readPaths_writtenPaths ?_ ?_
    · simpa [tablePaths] using aliasPieces_ne_nil name
    · simp [tablePaths, tablePath_ne_nil]

/-- A name with quotation marks, a wildcard and two aliases. -/
def oddName : String := "lib.we\"ird.* As  k.m as \"z "

/-- A connection whose table prefix has a quotation mark. -/
def oddConnection : Db2.Connection := { settings := { tablePrefix := "p\"" } }

theorem read?_column_and_table_oddName :
    oddConnection.dialect.QuotesNames ∧
    read? (oddConnection.dialect.column (.named oddName)) =
      some [[.identifier "lib", .identifier "p\"we\"ird", .wildcard],
        [.identifier "k.m as \"z"]] ∧
    read? (oddConnection.dialect.table oddName) =
      some [[.identifier "lib", .identifier "we\"ird", .identifier "p\"*"],
        [.identifier "k", .identifier "p\"m"], [.identifier "p\"\"z"]] := by
  have hquotes : oddConnection.dialect.QuotesNames := .db2 rfl
  have hread := read?_column_and_table hquotes oddName
  refine ⟨hquotes, hread.1.trans ?_, hread.2.trans ?_⟩
  · decide +kernel
  · rw [tablePaths, ← aliasChain_eq]
    decide +kernel

end Identifier

end SqlDialect
