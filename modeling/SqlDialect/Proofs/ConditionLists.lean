import SqlDialect.Db2.Dialect

/-!
# Lists of conditions

The conditions on rows and those on groups are written by the same joining of texts (`chain`), each
text behind its own connective and the first without one. So a list is written part by part: the
text of `a ++ b` is the text of `a`, the connective of the first condition of `b`, and the text of
`b` (`chain_append`), whatever the conditions are, groups and sub-queries included.
`Dialect.conditions_part_by_part` says it for both kinds of conditions, in every dialect.
-/

namespace SqlDialect

/-! ## Joined texts -/

/-- Texts and the words of connectives by turns, from the first text to the last. -/
def alternating (ps : List (Connective × String)) : List String :=
  (ps.flatMap fun p => [p.1.text, p.2]).tail

/-- One connective stands between neighbours, and none at the ends. -/
theorem chain_eq_intercalate (ps : List (Connective × String)) :
    chain ps = " ".intercalate (alternating ps) := by
  cases ps with
  | nil => rfl
  | cons p rest =>
    obtain ⟨connective, text⟩ := p
    rw [chain, alternating, List.flatMap_cons, List.cons_append, List.tail_cons]
    induction rest generalizing text with
    | nil => simp [continued]
    | cons p rest ih =>
      obtain ⟨next, more⟩ := p
      have hrest : more ++ continued rest =
          " ".intercalate (more :: rest.flatMap fun p => [p.1.text, p.2]) := ih more
      simp only [continued, List.flatMap_cons, List.cons_append, List.nil_append,
        String.intercalate_cons_cons, ← hrest, String.append_assoc]

/-- The connective of the first text is not written. -/
theorem chain_cons_connective (connective other : Connective) (text : String)
    (rest : List (Connective × String)) :
    chain ((connective, text) :: rest) = chain ((other, text) :: rest) := rfl

/-- **Joined texts are cut at any place into joined texts**, with the connective of the first text
behind the cut between them. -/
theorem chain_append {a b : List (Connective × String)} (ha : a ≠ []) (hb : b ≠ []) :
    chain (a ++ b) = chain a ++ " " ++ (b.head hb).1.text ++ " " ++ chain b := by
  obtain ⟨⟨first, text⟩, a, rfl⟩ := List.exists_cons_of_ne_nil ha
  obtain ⟨⟨connective, more⟩, b, rfl⟩ := List.exists_cons_of_ne_nil hb
  simp only [List.cons_append, List.head_cons, chain, continued_append, continued,
    String.append_assoc]

/-- Texts that are written for the elements of a list are joined part by part. -/
theorem chain_map_append {α : Type} (write : α → Connective × String) {a b : List α} (ha : a ≠ [])
    (hb : b ≠ []) :
    chain ((a ++ b).map write) =
      chain (a.map write) ++ " " ++ (write (b.head hb)).1.text ++ " " ++ chain (b.map write) := by
  have ha' : a.map write ≠ [] := fun h => ha (List.map_eq_nil_iff.1 h)
  have hb' : b.map write ≠ [] := fun h => hb (List.map_eq_nil_iff.1 h)
  rw [List.map_append, chain_append ha' hb', List.head_map]

namespace Dialect

/-! ## Conditions on rows and on groups -/

theorem conditions_eq (d : Dialect) (clauses : List Clause) :
    d.conditions clauses =
      chain (clauses.map fun c => (c.connective, d.predicate c.predicate)) := by
  rw [conditions, conditionTexts_eq_map]

/-- **Conditions are written part by part.** The text of a list that is put together from two lists
has their texts, with the connective of the first condition of the second list between them. What a
list starts with is written without its connective, whichever it is. So there is one connective
between neighbours, that of the right one, and none at the ends. A group has the text of its list in
parentheses. Conditions on groups, which stand behind the word `having`, are joined in the same
way. -/
theorem conditions_part_by_part (d : Dialect) :
    (∀ (a b : List Clause) (_ : a ≠ []) (hb : b ≠ []),
      d.conditions (a ++ b) =
        d.conditions a ++ " " ++ (b.head hb).connective.text ++ " " ++ d.conditions b) ∧
    (∀ c other rest, d.conditions (c :: rest) =
      d.conditions ({ c with connective := other } :: rest)) ∧
    (∀ clauses, d.conditions clauses = " ".intercalate (alternating
      (clauses.map fun c => (c.connective, d.predicate c.predicate)))) ∧
    (∀ clauses, d.predicate (.group clauses) = "(" ++ d.conditions clauses ++ ")") ∧
    (∀ (a b : List Having) (_ : a ≠ []) (hb : b ≠ []),
      d.havingConditions (a ++ b) =
        d.havingConditions a ++ " " ++ (b.head hb).connective.text ++ " " ++
          d.havingConditions b) ∧
    (∀ h other rest, d.havingConditions (h :: rest) =
      d.havingConditions ({ h with connective := other } :: rest)) ∧
    (∀ hs, d.havingConditions hs = " ".intercalate (alternating
      (hs.map fun h => (h.connective, d.havingTest h.test)))) ∧
    ∀ hs, d.havingClause hs = "having " ++ d.havingConditions hs := by
  refine ⟨fun a b ha hb => ?_, fun c other rest => ?_, fun clauses => ?_, d.predicate_group,
    fun a b ha hb => ?_, fun h other rest => ?_, fun hs => ?_, fun hs => rfl⟩
  · simp only [conditions_eq]
    exact chain_map_append _ ha hb
  · simp only [conditions_eq, List.map_cons]
    exact chain_cons_connective _ _ _ _
  · rw [conditions_eq, chain_eq_intercalate]
  · exact chain_map_append _ ha hb
  · exact chain_cons_connective _ _ _ _
  · exact chain_eq_intercalate _

/-- A condition, and behind it a group of two whose first has the other connective. -/
theorem conditions_part_by_part_group :
    let d := ({} : Db2.Connection).dialect
    let first : Clause := ⟨.or, .raw "a"⟩
    let group : Clause := ⟨.and, .group [⟨.or, .raw "b"⟩, ⟨.or, .raw "c"⟩]⟩
    [first] ≠ [] ∧ [group] ≠ [] ∧ d.conditions ([first] ++ [group]) = "a and (b or c)" := by
  intro d first group
  have hfirst : [first] ≠ [] := List.cons_ne_nil first []
  have hgroup : [group] ≠ [] := List.cons_ne_nil group []
  refine ⟨hfirst, hgroup, ?_⟩
  rw [(conditions_part_by_part d).1 [first] [group] hfirst hgroup]
  simp [first, group, conditions_eq, conditionTexts_eq_map, chain, continued, predicate,
    Connective.text]

end Dialect

end SqlDialect
