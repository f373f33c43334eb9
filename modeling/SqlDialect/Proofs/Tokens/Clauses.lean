import SqlDialect.Dialect

/-!
# Clauses as tokens

A clause can be given before it is known how names are quoted and what stands for operands: as
`Token`s, which are texts, segments of names and operands. `Spelling.write` writes the tokens one
after another, the texts as they are. For each text that a spelling writes, `Tokens` has the tokens
it is made of; they depend on the table prefix and on nothing else of the spelling.

Whether a clause is empty decides what stands around it, so this too has to be known before. Tokens
are `Tokens.Definite` if every spelling writes something for them, or none does.
-/

namespace SqlDialect

/-- A part of a statement: text that stands as it is, a segment of a name, or an operand. -/
inductive Token
  | text (sql : String)
  | segment (name : String)
  | operand (operand : Operand)

namespace Spelling

variable (s : Spelling)

/-- The text of a token. -/
def token : Token → String
  | .text sql => sql
  | .segment name => s.quote name
  | .operand operand => s.operand operand

/-- The texts of tokens one after another. -/
def write (ts : List Token) : String := String.join (ts.map s.token)

@[simp] theorem write_nil : s.write [] = "" := rfl

@[simp] theorem write_text (sql : String) (ts : List Token) :
    s.write (.text sql :: ts) = sql ++ s.write ts := String.join_cons

@[simp] theorem write_segment (name : String) (ts : List Token) :
    s.write (.segment name :: ts) = s.quote name ++ s.write ts := String.join_cons

@[simp] theorem write_operand (operand : Operand) (ts : List Token) :
    s.write (.operand operand :: ts) = s.operand operand ++ s.write ts := String.join_cons

@[simp] theorem write_append (ts us : List Token) :
    s.write (ts ++ us) = s.write ts ++ s.write us := by
  rw [write, List.map_append, String.join_append, write, write]

end Spelling

namespace Tokens

/-! ## The tokens of names and operands -/

/-- Lists of tokens with a separator between them. -/
def separated (separator : String) (tss : List (List Token)) : List Token :=
  [Token.text separator].intercalate tss

/-- Segments with dots between them. -/
def path (segments : List String) : List Token := separated "." (segments.map fun x => [.segment x])

/-- Operands with commas between them. -/
def operands (os : List Operand) : List Token := separated ", " (os.map fun o => [.operand o])

section

variable (tablePrefix : String)

/-- One table name without an alias. -/
def tablePath (name : String) : List Token :=
  path (Identifier.prefixLast tablePrefix (Identifier.segments name))

/-- A column name without an alias. -/
def columnPath (name : String) : List Token :=
  path (Identifier.prefixOwner tablePrefix (Identifier.segments name))

/-- A table name with its aliases. -/
def table (name : String) : List Token :=
  separated " as " ((Identifier.aliasChain name).map (tablePath tablePrefix))

/-- A column name with its alias. -/
def columnName (name : String) : List Token :=
  match Identifier.splitAlias? name with
  | some (name, byname) => columnPath tablePrefix name ++ [.text " as ", .segment byname]
  | none => columnPath tablePrefix name

/-- A column. -/
def column : Column → List Token
  | .named name => columnName tablePrefix name
  | .raw sql => [.text sql]

/-- Columns with commas between them. -/
def columns (cs : List Column) : List Token := separated ", " (cs.map (column tablePrefix))

/-! ## The tokens of conditions -/

/-- Two columns and the operator between them. -/
def columnTest (t : ColumnTest) : List Token :=
  column tablePrefix t.first ++ .text (" " ++ t.operator ++ " ") :: column tablePrefix t.second

/-- A column and an operand with the operator between them. -/
def comparison (c : Column) (operator : String) (operand : Operand) : List Token :=
  column tablePrefix c ++ [.text (" " ++ operator ++ " "), .operand operand]

/-- A column and parenthesised tokens with the operator of a membership test between them. -/
def member (c : Column) (negated : Bool) (inside : List Token) : List Token :=
  column tablePrefix c ++ .text (" " ++ Spelling.memberOperator negated ++ " (") :: inside ++
    [.text ")"]

/-- Membership in a list of operands. -/
def inList (c : Column) (os : List Operand) (negated : Bool) : List Token :=
  if os.isEmpty then [.text (Spelling.emptyMember negated)]
  else member tablePrefix c negated (operands os)

/-- A column between two operands. -/
def between (c : Column) (low high : Operand) (negated : Bool) : List Token :=
  column tablePrefix c ++
    [.text (if negated then " not between " else " between "), .operand low, .text " and ",
      .operand high]

/-! ## The tokens of clauses -/

/-- The select clause. -/
def selectClause (q : Query) : List Token :=
  .text ((if q.distinct then "select distinct" else "select") ++ " ") ::
    match q.columns with
    | some (c :: cs) => columns tablePrefix (c :: cs)
    | _ => [.text "*"]

/-- One join. -/
def join (j : Join) : List Token :=
  .text (j.kind.text ++ " join ") :: table tablePrefix j.table ++
    if j.on.isEmpty then []
    else .text " on " :: separated " and " (j.on.map (columnTest tablePrefix))

/-- Joins one after another. -/
def joinClause (js : List Join) : List Token := separated " " (js.map (join tablePrefix))

/-- The condition of a having clause. -/
def havingTest : HavingTest → List Token
  | .compare c operator operand => comparison tablePrefix c operator operand
  | .raw sql => [.text sql]

/-- One key of an order. -/
def sortKey : SortKey → List Token
  | .column c direction => column tablePrefix c ++ [.text (" " ++ direction.text)]
  | .raw sql => [.text sql]

/-- The order clause. -/
def orderClause (keys : List SortKey) : List Token :=
  .text "order by " :: separated ", " (keys.map (sortKey tablePrefix))

end

/-- Conditions one after another, each with its connective but the first. -/
def continued : List (Connective × List Token) → List Token
  | [] => []
  | (connective, ts) :: rest => .text (" " ++ connective.text ++ " ") :: ts ++ continued rest

/-- Conditions joined by their connectives; that of the first is not used. -/
def chain : List (Connective × List Token) → List Token
  | [] => []
  | (_, ts) :: rest => ts ++ continued rest

/-- The having clause. -/
def havingClause (tablePrefix : String) (hs : List Having) : List Token :=
  .text "having " :: chain (hs.map fun h => (h.connective, havingTest tablePrefix h.test))

/-! ## What is empty -/

/-- The tokens hold nothing but empty texts. -/
def isBlank (ts : List Token) : Bool :=
  ts.all fun
    | .text sql => sql == ""
    | _ => false

/-- Every spelling writes something for the tokens, or none does: they are blank, or there is a text
among them that is not empty. -/
def Definite (ts : List Token) : Prop :=
  isBlank ts = true ∨ ∃ sql, Token.text sql ∈ ts ∧ sql ≠ ""

theorem definite_of_mem {ts : List Token} (sql : String) (h : .text sql ∈ ts) (hsql : sql ≠ "") :
    Definite ts := .inr ⟨sql, h, hsql⟩

theorem definite_text (sql : String) : Definite [.text sql] := by
  by_cases h : sql = ""
  · exact .inl (by simp [isBlank, h])
  · exact definite_of_mem sql List.mem_cons_self h

theorem definite_continued (cs : List (Connective × List Token)) : Definite (continued cs) := by
  cases cs with
  | nil => exact .inl rfl
  | cons c cs => exact definite_of_mem _ List.mem_cons_self (by simp)

theorem Definite.append {ts us : List Token} (ht : Definite ts) (hu : Definite us) :
    Definite (ts ++ us) := by
  rcases ht with ht | ⟨sql, hmem, hsql⟩
  · rcases hu with hu | ⟨sql, hmem, hsql⟩
    · exact .inl (by rw [isBlank, List.all_append, ← isBlank, ← isBlank, ht, hu, Bool.and_self])
    · exact definite_of_mem sql (List.mem_append_right ts hmem) hsql
  · exact definite_of_mem sql (List.mem_append_left us hmem) hsql

/-- Conditions are definite if the first of them is: behind it there is a connective. -/
theorem definite_chain {cs : List (Connective × List Token)} (h : ∀ c ∈ cs, Definite c.2) :
    Definite (chain cs) := by
  cases cs with
  | nil => exact .inl rfl
  | cons c cs => exact (h c List.mem_cons_self).append (definite_continued cs)

/-- The where clause of conditions given as tokens; there is none if nothing is written. -/
def whereClause (conditions : List (Connective × List Token)) : List Token :=
  if isBlank (chain conditions) then [] else .text "where " :: chain conditions

end Tokens

/-! ## What the tokens write -/

namespace Spelling

variable (s : Spelling)

open Tokens (separated isBlank Definite)

theorem write_eq_empty_of_isBlank {ts : List Token} (h : isBlank ts = true) : s.write ts = "" := by
  induction ts with
  | nil => rfl
  | cons t ts ih =>
    rw [isBlank, List.all_cons, ← isBlank, Bool.and_eq_true] at h
    obtain ⟨hfirst, hrest⟩ := h
    cases t with
    | text sql => rw [write_text, ih hrest, beq_iff_eq.1 hfirst, String.append_empty]
    | segment name => exact absurd hfirst nofun
    | operand operand => exact absurd hfirst nofun

theorem write_ne_empty_of_mem {ts : List Token} {sql : String} (h : .text sql ∈ ts)
    (hsql : sql ≠ "") : s.write ts ≠ "" := by
  obtain ⟨before, after, rfl⟩ := List.append_of_mem h
  simp [hsql]

/-- **Definite tokens** are written as nothing only if they are blank. -/
theorem write_eq_empty_iff {ts : List Token} (h : Definite ts) :
    s.write ts = "" ↔ isBlank ts = true := by
  refine ⟨fun hempty => ?_, s.write_eq_empty_of_isBlank⟩
  rcases h with hblank | ⟨sql, hmem, hsql⟩
  · exact hblank
  · exact absurd hempty (s.write_ne_empty_of_mem hmem hsql)

theorem write_separated (separator : String) (tss : List (List Token)) :
    s.write (separated separator tss) = separator.intercalate (tss.map s.write) := by
  induction tss with
  | nil => rfl
  | cons ts tss ih =>
    cases tss with
    | nil => simp [separated]
    | cons us tss =>
      rw [separated] at ih ⊢
      rw [List.intercalate_cons_cons, write_append, write_append, ih]
      simp

/-- Parts that are written as they should be, with a separator between them. -/
theorem write_separated_map {α : Type} {tokens : α → List Token} {written : α → String}
    (h : ∀ a, s.write (tokens a) = written a) (separator : String) (l : List α) :
    s.write (separated separator (l.map tokens)) = separator.intercalate (l.map written) := by
  rw [write_separated, List.map_map]
  exact congrArg separator.intercalate (List.map_congr_left fun a _ => h a)

/-! ### Names and operands -/

theorem write_path (segments : List String) : s.write (Tokens.path segments) = s.path segments :=
  s.write_separated_map (by simp) "." segments

theorem write_operands (os : List Operand) : s.write (Tokens.operands os) = s.operands os :=
  s.write_separated_map (by simp) ", " os

theorem write_table (name : String) :
    s.write (Tokens.table s.tablePrefix name) = s.table name :=
  s.write_separated_map (fun _ => s.write_path _) " as " _

theorem write_columnName (name : String) :
    s.write (Tokens.columnName s.tablePrefix name) = s.columnName name := by
  unfold Tokens.columnName columnName
  cases Identifier.splitAlias? name with
  | none => exact s.write_path _
  | some pair => simp [Tokens.columnPath, columnPath, write_path, String.append_assoc]

@[simp] theorem write_column (c : Column) :
    s.write (Tokens.column s.tablePrefix c) = s.column c := by
  cases c with
  | named name => exact s.write_columnName name
  | raw sql => simp [Tokens.column, column]

theorem write_columns (cs : List Column) :
    s.write (Tokens.columns s.tablePrefix cs) = s.columns cs :=
  s.write_separated_map s.write_column ", " cs

/-! ### Conditions -/

theorem write_columnTest (t : ColumnTest) :
    s.write (Tokens.columnTest s.tablePrefix t) = s.columnTest t := by
  simp [Tokens.columnTest, columnTest, String.append_assoc]

theorem write_comparison (c : Column) (operator : String) (operand : Operand) :
    s.write (Tokens.comparison s.tablePrefix c operator operand) =
      s.comparison c operator operand := by
  simp [Tokens.comparison, comparison, String.append_assoc]

theorem write_member (c : Column) (negated : Bool) (inside : List Token) :
    s.write (Tokens.member s.tablePrefix c negated inside) =
      s.member c negated (s.write inside) := by
  simp [Tokens.member, member, String.append_assoc]

theorem write_inList (c : Column) (os : List Operand) (negated : Bool) :
    s.write (Tokens.inList s.tablePrefix c os negated) = s.inList c os negated := by
  unfold Tokens.inList inList
  split
  · simp
  · rw [write_member, write_operands]

/-! ### Clauses -/

theorem write_selectClause (q : Query) :
    s.write (Tokens.selectClause s.tablePrefix q) = s.selectClause q := by
  rw [Tokens.selectClause, selectClause, write_text]
  cases q.columns with
  | none => simp
  | some cs => cases cs <;> simp [write_columns]

theorem write_join (j : Join) : s.write (Tokens.join s.tablePrefix j) = s.join j := by
  have htests : s.write (separated " and " (j.on.map (Tokens.columnTest s.tablePrefix))) =
      " and ".intercalate (j.on.map s.columnTest) :=
    s.write_separated_map s.write_columnTest " and " j.on
  unfold Tokens.join join
  split <;> simp [write_table, htests, String.append_assoc]

theorem write_joinClause (js : List Join) :
    s.write (Tokens.joinClause s.tablePrefix js) = s.joinClause js :=
  s.write_separated_map s.write_join " " js

theorem write_sortKey (key : SortKey) :
    s.write (Tokens.sortKey s.tablePrefix key) = s.sortKey key := by
  cases key <;> simp [Tokens.sortKey, sortKey, String.append_assoc]

theorem write_orderClause (keys : List SortKey) :
    s.write (Tokens.orderClause s.tablePrefix keys) = s.orderClause keys := by
  rw [Tokens.orderClause, write_text, orderClause, s.write_separated_map s.write_sortKey]

theorem write_continued (cs : List (Connective × List Token)) :
    s.write (Tokens.continued cs) = continued (cs.map fun c => (c.1, s.write c.2)) := by
  induction cs with
  | nil => rfl
  | cons c cs ih =>
    rw [List.map_cons, Tokens.continued, continued, write_append, write_text, ih]

theorem write_chain (cs : List (Connective × List Token)) :
    s.write (Tokens.chain cs) = chain (cs.map fun c => (c.1, s.write c.2)) := by
  cases cs with
  | nil => rfl
  | cons c cs => rw [List.map_cons, Tokens.chain, chain, write_append, write_continued]

theorem write_havingTest (test : HavingTest) :
    s.write (Tokens.havingTest s.tablePrefix test) = s.havingTest test := by
  cases test with
  | compare c operator operand => exact s.write_comparison c operator operand
  | raw sql => simp [Tokens.havingTest, havingTest]

theorem write_havingClause (hs : List Having) :
    s.write (Tokens.havingClause s.tablePrefix hs) = s.havingClause hs := by
  rw [Tokens.havingClause, write_text, write_chain, List.map_map, havingClause, havingConditions]
  simp only [Function.comp_def, write_havingTest]

/-- The where clause is left out by every spelling or by none. -/
theorem write_whereClause {cs : List (Connective × List Token)} (h : ∀ c ∈ cs, Definite c.2) :
    s.write (Tokens.whereClause cs) = whereClause (cs.map fun c => (c.1, s.write c.2)) := by
  have hempty := s.write_eq_empty_iff (Tokens.definite_chain h)
  simp only [Tokens.whereClause, whereClause, ← write_chain, hempty]
  split
  · rfl
  · rw [write_text]

end Spelling

end SqlDialect
