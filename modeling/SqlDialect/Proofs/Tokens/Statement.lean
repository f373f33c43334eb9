import SqlDialect.Dialect.Select
import SqlDialect.Proofs.Recursion
import SqlDialect.Proofs.Tokens.Clauses

/-!
# Statements as tokens

The tokens of a statement with all that is nested in it, by the recursion by which a dialect writes
it. A dialect of a spelling (`Dialect.ofSpelling`) writes every statement, fragment and predicate as
its spelling writes the tokens of it. So at whatever depth a name or an operand stands, it is the
spelling that quotes it or puts a placeholder for it, and nothing else of the text is up to the
spelling.
-/

namespace SqlDialect

namespace Tokens

/-! ## Statements -/

/-- The tokens of the clauses of a query whose conditions are given as tokens. -/
def fragmentsWith (tablePrefix : String) (q : Query) (conditions : List (Connective × List Token)) :
    Part → Option (List Token)
  | .columns => some (selectClause tablePrefix q)
  | .source => q.source.map fun name => .text "from " :: table tablePrefix name
  | .joins => if q.joins.isEmpty then none else some (joinClause tablePrefix q.joins)
  | .conditions => if q.conditions.isEmpty then none else some (whereClause conditions)
  | .groups =>
    if q.groups.isEmpty then none else some (.text "group by " :: columns tablePrefix q.groups)
  | .havings => if q.havings.isEmpty then none else some (havingClause tablePrefix q.havings)
  | .orders => if q.orders.isEmpty then none else some (orderClause tablePrefix q.orders)
  | .limit => q.limit.map fun rows => [.text (Dialect.limitClause rows)]
  | .offset => q.offset.map fun rows => [.text (Dialect.offsetClause rows)]

/-- The tokens of the parts that are not blank, with single blanks between them. -/
def concatenate (fragments : Part → Option (List Token)) : List Token :=
  separated " " ((Part.all.filterMap fragments).filter fun ts => !isBlank ts)

mutual

/-- The tokens of the `select` statement of a query. -/
def select (tablePrefix : String) : Query → List Token
  | ⟨distinct, columns, source, joins, conditions, groups, havings, orders, limit, offset,
      bindings⟩ =>
    let q : Query := ⟨distinct, columns, source, joins, conditions, groups, havings, orders, limit,
      offset, bindings⟩
    concatenate (fragmentsWith tablePrefix q (conditionList tablePrefix conditions))

/-- The tokens of conditions, each with its connective. -/
def conditionList (tablePrefix : String) : List Clause → List (Connective × List Token)
  | [] => []
  | clause :: rest => condition tablePrefix clause :: conditionList tablePrefix rest

/-- The tokens of a condition with its connective. -/
def condition (tablePrefix : String) : Clause → Connective × List Token
  | ⟨connective, p⟩ => (connective, predicate tablePrefix p)

/-- The tokens of a predicate. -/
def predicate (tablePrefix : String) : Predicate → List Token
  | .compare c operator operand => comparison tablePrefix c operator operand
  | .member c source negated => memberOf tablePrefix c negated source
  | .null c negated =>
    column tablePrefix c ++ [.text (if negated then " is not null" else " is null")]
  | .between c low high negated => between tablePrefix c low high negated
  | .compareColumns test => columnTest tablePrefix test
  | .raw sql => [.text sql]
  | .group clauses => .text "(" :: chain (conditionList tablePrefix clauses) ++ [.text ")"]
  | .hasRows query negated =>
    .text (if negated then "not exists (" else "exists (") :: select tablePrefix query ++
      [.text ")"]

/-- The tokens of a membership test. -/
def memberOf (tablePrefix : String) (c : Column) (negated : Bool) : Source → List Token
  | .list os => inList tablePrefix c os negated
  | .query query => member tablePrefix c negated (select tablePrefix query)
  | .deferred build => member tablePrefix c negated (select tablePrefix (build ()))

end

/-- The tokens of the clauses of a query. -/
def fragments (tablePrefix : String) (q : Query) : Part → Option (List Token) :=
  fragmentsWith tablePrefix q (conditionList tablePrefix q.conditions)

/-- The tokens of the statement that tells whether a query has rows. -/
def hasRows (tablePrefix : String) (q : Query) : List Token :=
  .text "select exists(" :: select tablePrefix q ++ [.text ") as ", .segment "exists"]

variable (tablePrefix : String)

theorem select_eq (q : Query) : select tablePrefix q = concatenate (fragments tablePrefix q) := by
  cases q
  simp only [select, fragments]

theorem conditionList_eq_map (clauses : List Clause) :
    conditionList tablePrefix clauses =
      clauses.map fun c => (c.connective, predicate tablePrefix c.predicate) := by
  induction clauses with
  | nil => simp [conditionList]
  | cons clause rest ih =>
    cases clause
    simp [conditionList, condition, ih]

/-! ## Statements are definite -/

theorem definite_member (c : Column) (negated : Bool) (inside : List Token) :
    Definite (member tablePrefix c negated inside) :=
  definite_of_mem ")" (by simp [member]) (by decide)

theorem definite_inList (c : Column) (os : List Operand) (negated : Bool) :
    Definite (inList tablePrefix c os negated) := by
  unfold inList
  split
  · exact definite_text _
  · exact definite_member tablePrefix c negated _

/-- Only a raw predicate can be empty, and then it is so in every spelling. -/
theorem definite_predicate (p : Predicate) : Definite (predicate tablePrefix p) := by
  cases p with
  | compare c operator operand =>
    rw [predicate, comparison]
    exact definite_of_mem (" " ++ operator ++ " ") (by simp) (by simp)
  | member c source negated =>
    rw [predicate]
    cases source with
    | list os =>
      rw [memberOf]
      exact definite_inList tablePrefix c os negated
    | query q =>
      rw [memberOf]
      exact definite_member tablePrefix c negated _
    | deferred build =>
      rw [memberOf]
      exact definite_member tablePrefix c negated _
  | null c negated =>
    rw [predicate]
    exact definite_of_mem _ (List.mem_append_right _ List.mem_cons_self)
      (by cases negated <;> decide)
  | between c low high negated =>
    rw [predicate, between]
    exact definite_of_mem " and " (by simp) (by decide)
  | compareColumns test =>
    rw [predicate, columnTest]
    exact definite_of_mem (" " ++ test.operator ++ " ") (by simp) (by simp)
  | raw sql =>
    rw [predicate]
    exact definite_text sql
  | group clauses =>
    rw [predicate]
    exact definite_of_mem ")" (by simp) (by decide)
  | hasRows q negated =>
    rw [predicate]
    exact definite_of_mem ")" (by simp) (by decide)

theorem definite_conditionList (clauses : List Clause) :
    ∀ c ∈ conditionList tablePrefix clauses, Definite c.2 := by
  rw [conditionList_eq_map, List.forall_mem_map]
  exact fun clause _ => definite_predicate tablePrefix clause.predicate

theorem definite_whereClause (cs : List (Connective × List Token)) : Definite (whereClause cs) := by
  unfold whereClause
  split
  · exact .inl rfl
  · exact definite_of_mem "where " List.mem_cons_self (by decide)

theorem definite_joinClause {js : List Join} (h : js.isEmpty = false) :
    Definite (joinClause tablePrefix js) := by
  cases js with
  | nil => exact absurd h nofun
  | cons j js =>
    have hword : Token.text (j.kind.text ++ " join ") ∈ joinClause tablePrefix (j :: js) := by
      cases js <;> simp [joinClause, separated, join]
    exact definite_of_mem _ hword (by simp)

/-- The clauses that can be missing because their list is empty, if they are there. -/
theorem eq_of_mem_ite {b : Bool} {ts us : List Token}
    (h : us ∈ if b then none else some ts) : b = false ∧ us = ts := by
  cases b with
  | true => exact absurd h nofun
  | false => exact ⟨rfl, (Option.some.inj h).symm⟩

theorem definite_fragments (q : Query) (part : Part) :
    ∀ ts ∈ fragments tablePrefix q part, Definite ts := by
  intro ts hts
  cases part with
  | columns =>
    obtain rfl := Option.some.inj hts
    exact definite_of_mem _ List.mem_cons_self (by simp)
  | source =>
    obtain ⟨name, -, rfl⟩ := Option.map_eq_some_iff.1 hts
    exact definite_of_mem "from " List.mem_cons_self (by decide)
  | joins =>
    obtain ⟨hjoins, rfl⟩ := eq_of_mem_ite hts
    exact definite_joinClause tablePrefix hjoins
  | conditions =>
    obtain ⟨-, rfl⟩ := eq_of_mem_ite hts
    exact definite_whereClause _
  | groups =>
    obtain ⟨-, rfl⟩ := eq_of_mem_ite hts
    exact definite_of_mem "group by " List.mem_cons_self (by decide)
  | havings =>
    obtain ⟨-, rfl⟩ := eq_of_mem_ite hts
    exact definite_of_mem "having " List.mem_cons_self (by decide)
  | orders =>
    obtain ⟨-, rfl⟩ := eq_of_mem_ite hts
    exact definite_of_mem "order by " List.mem_cons_self (by decide)
  | limit =>
    obtain ⟨rows, -, rfl⟩ := Option.map_eq_some_iff.1 hts
    exact definite_text _
  | offset =>
    obtain ⟨rows, -, rfl⟩ := Option.map_eq_some_iff.1 hts
    exact definite_text _

end Tokens

/-! ## What the tokens write -/

theorem Spelling.map_write_ite (s : Spelling) (b : Bool) (ts : List Token) :
    (if b then none else some ts).map s.write = if b then none else some (s.write ts) := by
  cases b <;> rfl

/-- Fragments that tokens write are joined to what the joined tokens write. -/
theorem Spelling.write_concatenate (s : Spelling) {f : Fragments} {fs : Part → Option (List Token)}
    (hget : ∀ part, f.get? part = (fs part).map s.write)
    (hdefinite : ∀ part, ∀ ts ∈ fs part, Tokens.Definite ts) :
    s.write (Tokens.concatenate fs) = f.concatenate := by
  have htexts : f.toList.map Prod.snd = (Part.all.filterMap fs).map s.write := by
    rw [f.map_snd_toList, List.map_filterMap]
    exact congrArg (Part.all.filterMap ·) (funext hget)
  have hshown : ∀ ts ∈ Part.all.filterMap fs,
      (!Tokens.isBlank ts) = ((fun text => text != "") ∘ s.write) ts := by
    intro ts hmem
    obtain ⟨part, -, hts⟩ := List.mem_filterMap.1 hmem
    have hempty := s.write_eq_empty_iff (hdefinite part ts hts)
    rw [Function.comp_apply, bne, Bool.not_inj_iff, Bool.eq_iff_iff, beq_iff_eq, hempty]
  rw [Fragments.concatenate, htexts, List.filter_map, ← List.filter_congr hshown,
    Tokens.concatenate, write_separated]

namespace Dialect

section

variable (name : String) (s : Spelling) (timestampFormat : String)

theorem write_conditionList {clauses : List Clause}
    (h : ∀ clause ∈ clauses, (ofSpelling name s timestampFormat).predicate clause.predicate =
      s.write (Tokens.predicate s.tablePrefix clause.predicate)) :
    (Tokens.conditionList s.tablePrefix clauses).map (fun c => (c.1, s.write c.2)) =
      (ofSpelling name s timestampFormat).conditionTexts clauses := by
  rw [conditionTexts_eq_map, Tokens.conditionList_eq_map, List.map_map]
  exact List.map_congr_left fun clause hmem => congrArg (clause.connective, ·) (h clause hmem).symm

/-- Each fragment is what its tokens write, if this is so of the conditions. -/
theorem get?_fragments_of_conditions {q : Query}
    (h : ∀ clause ∈ q.conditions, (ofSpelling name s timestampFormat).predicate clause.predicate =
      s.write (Tokens.predicate s.tablePrefix clause.predicate)) (part : Part) :
    ((ofSpelling name s timestampFormat).fragments q).get? part =
      (Tokens.fragments s.tablePrefix q part).map s.write := by
  have htexts := write_conditionList name s timestampFormat h
  have hwhere := s.write_whereClause (Tokens.definite_conditionList s.tablePrefix q.conditions)
  cases part with
  | columns => exact congrArg some (s.write_selectClause q).symm
  | source =>
    rw [Tokens.fragments, Tokens.fragmentsWith, Option.map_map]
    exact Option.map_congr fun table _ => by simp [s.write_table, ofSpelling]
  | joins =>
    rw [Tokens.fragments, Tokens.fragmentsWith, s.map_write_ite, s.write_joinClause]
    rfl
  | conditions =>
    rw [Tokens.fragments, Tokens.fragmentsWith, s.map_write_ite, hwhere, htexts]
    rfl
  | groups =>
    rw [Tokens.fragments, Tokens.fragmentsWith, s.map_write_ite, s.write_text, s.write_columns]
    rfl
  | havings =>
    rw [Tokens.fragments, Tokens.fragmentsWith, s.map_write_ite, s.write_havingClause]
    rfl
  | orders =>
    rw [Tokens.fragments, Tokens.fragmentsWith, s.map_write_ite, s.write_orderClause]
    rfl
  | limit =>
    rw [Tokens.fragments, Tokens.fragmentsWith, Option.map_map]
    exact Option.map_congr fun rows _ => by simp [ofSpelling]
  | offset =>
    rw [Tokens.fragments, Tokens.fragmentsWith, Option.map_map]
    exact Option.map_congr fun rows _ => by simp [ofSpelling]

theorem select_of_conditions {q : Query}
    (h : ∀ clause ∈ q.conditions, (ofSpelling name s timestampFormat).predicate clause.predicate =
      s.write (Tokens.predicate s.tablePrefix clause.predicate)) :
    (ofSpelling name s timestampFormat).select q = s.write (Tokens.select s.tablePrefix q) := by
  rw [select_eq, Tokens.select_eq]
  exact (s.write_concatenate (get?_fragments_of_conditions name s timestampFormat h)
    (Tokens.definite_fragments s.tablePrefix q)).symm

/-- A predicate is what its tokens write, if this is so of its sub-query and of its group. -/
theorem predicate_of_nested {p : Predicate}
    (hsub : ∀ q, p.subquery? = some q →
      (ofSpelling name s timestampFormat).select q = s.write (Tokens.select s.tablePrefix q))
    (hgroup : ∀ clause ∈ p.grouped,
      (ofSpelling name s timestampFormat).predicate clause.predicate =
        s.write (Tokens.predicate s.tablePrefix clause.predicate)) :
    (ofSpelling name s timestampFormat).predicate p =
      s.write (Tokens.predicate s.tablePrefix p) := by
  cases p with
  | compare c operator operand =>
    rw [predicate, Tokens.predicate]
    exact (s.write_comparison c operator operand).symm
  | member c source negated =>
    rw [predicate, Tokens.predicate]
    cases source with
    | list os =>
      rw [member, Tokens.memberOf]
      exact (s.write_inList c os negated).symm
    | query q =>
      rw [member, Tokens.memberOf, s.write_member, hsub q rfl]
      rfl
    | deferred build =>
      rw [member, Tokens.memberOf, s.write_member, hsub (build ()) rfl]
      rfl
  | null c negated =>
    rw [predicate, Tokens.predicate]
    simp [ofSpelling]
  | between c low high negated =>
    rw [predicate, Tokens.predicate, Tokens.between]
    simp [ofSpelling, String.append_assoc]
  | compareColumns test =>
    rw [predicate, Tokens.predicate]
    exact (s.write_columnTest test).symm
  | raw sql => simp [predicate, Tokens.predicate]
  | group clauses =>
    have htexts := write_conditionList name s timestampFormat hgroup
    simp only [Predicate.grouped] at htexts
    rw [predicate, Tokens.predicate, ← htexts, ← s.write_chain]
    simp [String.append_assoc]
  | hasRows q negated =>
    rw [predicate, Tokens.predicate, hsub q rfl]
    simp [String.append_assoc]

theorem select_and_predicate_ofSpelling :
    (∀ q, (ofSpelling name s timestampFormat).select q =
      s.write (Tokens.select s.tablePrefix q)) ∧
    ∀ p, (ofSpelling name s timestampFormat).predicate p =
      s.write (Tokens.predicate s.tablePrefix p) :=
  Query.induction (fun _ => select_of_conditions name s timestampFormat)
    (fun _ => predicate_of_nested name s timestampFormat)

end

/-- **A spelling decides how names are quoted and what stands for operands, and nothing else.** For
a table prefix there is one list of tokens for each query, for the question whether it has rows, for
each of its fragments and for each predicate, and the dialect of any spelling with that prefix
writes what the spelling writes for these tokens. -/
theorem ofSpelling_eq_write (tablePrefix : String) (name : String) (quote : String → String)
    (operand : Operand → String) (timestampFormat : String) :
    let s : Spelling := ⟨tablePrefix, quote, operand⟩
    let d : Dialect := ofSpelling name s timestampFormat
    (∀ q, d.select q = s.write (Tokens.select tablePrefix q)) ∧
      (∀ q, d.hasRows q = s.write (Tokens.hasRows tablePrefix q)) ∧
      (∀ q part, (d.fragments q).get? part = (Tokens.fragments tablePrefix q part).map s.write) ∧
      ∀ p, d.predicate p = s.write (Tokens.predicate tablePrefix p) := by
  intro s d
  obtain ⟨hselect, hpredicate⟩ := select_and_predicate_ofSpelling name s timestampFormat
  refine ⟨hselect, fun q => ?_, fun q => ?_, hpredicate⟩
  · rw [Tokens.hasRows]
    simp only [Spelling.write_append, Spelling.write_text, Spelling.write_segment,
      Spelling.write_nil, String.append_empty, ← String.append_assoc]
    exact congrArg s.existsColumn (hselect q)
  · exact get?_fragments_of_conditions name s timestampFormat fun c _ => hpredicate c.predicate

example : Tokens.hasRows "app_"
    { source := some "users"
      conditions := [⟨.and, .member (.named "users.id") (.list [.literal (.int 7)]) true⟩] } =
    [.text "select exists(", .text "select ", .text "*", .text " ", .text "from ",
      .segment "app_users", .text " ", .text "where ", .segment "app_users", .text ".",
      .segment "id", .text " not in (", .operand (.literal (.int 7)), .text ")", .text ") as ",
      .segment "exists"] := by
  rfl

end Dialect

end SqlDialect
