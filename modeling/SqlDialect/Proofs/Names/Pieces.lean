import SqlDialect.Identifier

/-!
# What names consist of

The pieces of a name, said without the way in which they are found: aliases are cut off for as long
as there are any (`Identifier.aliasPieces`), segments are what the library splits a list into at the
dots (`Identifier.dotSplit`), and a table prefix goes before the segment at a certain place. The
functions that names are written with come to the same: `Identifier.aliasChain_eq`,
`Identifier.segments_eq`, `Identifier.prefixLast_eq` and `Identifier.prefixOwner_eq`.

A name is cut at its first ` as `, so that the part before it has no alias of its own
(`Identifier.splitAlias?_of_splitAlias?`).
-/

namespace SqlDialect.Identifier

open Text

/-! ## Aliases -/

theorem dropAs?_append {text rest : List Char} (h : dropAs? text = some rest) (more : List Char) :
    dropAs? (text ++ more) = some (rest ++ more) := by
  unfold dropAs? at h
  split at h
  · next a s rest' =>
    split at h
    · next has =>
      cases h
      exact if_pos has
    · cases h
  · cases h

theorem cutAs?_eq_none_iff {text : List Char} :
    cutAs? text = none ↔ ∀ rest, rest <:+ text → dropAs? rest = none := by
  induction text with
  | nil =>
    refine ⟨fun _ rest hrest => ?_, fun _ => rfl⟩
    rw [List.suffix_nil.1 hrest]
    rfl
  | cons c cs ih =>
    simp only [List.suffix_cons_iff, forall_eq_or_imp, ← ih, cutAs?]
    cases dropAs? (c :: cs) <;> simp

/-- A part of a text without ` as ` has none either. -/
theorem cutAs?_eq_none_of_isInfix {part text : List Char} (h : cutAs? text = none)
    (hpart : part <:+: text) : cutAs? part = none := by
  obtain ⟨front, back, rfl⟩ := hpart
  rw [cutAs?_eq_none_iff] at h ⊢
  intro rest hrest
  have hlonger : dropAs? (rest ++ back) = none := by
    refine h (rest ++ back) ?_
    obtain ⟨before, rfl⟩ := hrest
    exact ⟨front ++ before, by simp only [List.append_assoc]⟩
  cases hdrop : dropAs? rest with
  | none => rfl
  | some more =>
    rw [dropAs?_append hdrop] at hlonger
    cases hlonger

theorem eq_append_of_dropAs? {text rest : List Char} (h : dropAs? text = some rest) :
    ∃ mark, text = mark ++ rest := by
  unfold dropAs? at h
  split at h
  · next a s rest' =>
    split at h
    · cases h
      exact ⟨[' ', a, s, ' '], rfl⟩
    · cases h
  · cases h

theorem eq_append_of_cutAs? {text before after : List Char}
    (h : cutAs? text = some (before, after)) : ∃ mark, text = before ++ mark ++ after := by
  induction text generalizing before with
  | nil => cases h
  | cons c cs ih =>
    rw [cutAs?] at h
    split at h
    · next rest hrest =>
      cases h
      exact eq_append_of_dropAs? hrest
    · obtain ⟨⟨before', after'⟩, hcut, heq⟩ := Option.map_eq_some_iff.1 h
      cases heq
      obtain ⟨mark, hmark⟩ := ih hcut
      exact ⟨mark, congrArg (c :: ·) hmark⟩

/-- **The first ` as ` is cut at**: there is none before it. -/
theorem cutAs?_before {text before after : List Char} (h : cutAs? text = some (before, after)) :
    cutAs? before = none := by
  induction text generalizing before with
  | nil => cases h
  | cons c cs ih =>
    rw [cutAs?] at h
    split at h
    · cases h
      rfl
    · next hdrop =>
      obtain ⟨⟨before', after'⟩, hcut, heq⟩ := Option.map_eq_some_iff.1 h
      cases heq
      obtain ⟨mark, hmark⟩ := eq_append_of_cutAs? hcut
      have hhere : dropAs? (c :: before') = none := by
        cases hbefore : dropAs? (c :: before') with
        | none => rfl
        | some rest =>
          have hlonger := dropAs?_append hbefore (mark ++ after)
          rw [List.cons_append, ← List.append_assoc, ← hmark, hdrop] at hlonger
          cases hlonger
      rw [cutAs?, hhere, ih hcut]
      rfl

theorem isInfix_trim (text : List Char) : trim text <:+: text := by
  have hstart : ∀ text : List Char, trimStart text <:+ text := fun text =>
    List.dropWhile_suffix isBlank
  have hend : trimEnd (trimStart text) <+: trimStart text := by
    rw [← List.reverse_suffix, trimEnd, List.reverse_reverse]
    exact hstart _
  exact hend.isInfix.trans (hstart text).isInfix

/-- The part of a name before its alias has no alias. -/
theorem splitAlias?_of_splitAlias? {text name byname : String}
    (h : splitAlias? text = some (name, byname)) : splitAlias? name = none := by
  obtain ⟨⟨name', byname'⟩, hsplit, heq⟩ := Option.map_eq_some_iff.1 h
  cases heq
  obtain ⟨⟨before, after⟩, hcut, heq⟩ := Option.map_eq_some_iff.1 hsplit
  cases heq
  have hnone : cutAs? (trim before) = none :=
    cutAs?_eq_none_of_isInfix (cutAs?_before hcut) (isInfix_trim before)
  rw [splitAlias?, String.toList_ofList, splitAliasChars?, hnone]
  rfl

theorem length_of_splitAlias? {text name byname : String}
    (h : splitAlias? text = some (name, byname)) :
    name.length < text.length ∧ byname.length < text.length := by
  obtain ⟨⟨name', byname'⟩, hsplit, heq⟩ := Option.map_eq_some_iff.1 h
  cases heq
  have hlength := length_of_splitAliasChars? hsplit
  simp only [String.length_ofList, String.length_toList] at hlength ⊢
  omega

/-- The pieces of a name that is cut at its alias, and so are its parts, until no piece has one. -/
def aliasPieces (name : String) : List String :=
  match h : splitAlias? name with
  | some (table, byname) =>
    have _shorter := length_of_splitAlias? h
    aliasPieces table ++ aliasPieces byname
  | none => [name]
termination_by name.length

theorem aliasPieces_of_none {name : String} (h : splitAlias? name = none) :
    aliasPieces name = [name] := by
  rw [aliasPieces]
  split
  · next hsome =>
    rw [h] at hsome
    cases hsome
  · rfl

theorem aliasPieces_of_some {text name byname : String}
    (h : splitAlias? text = some (name, byname)) :
    aliasPieces text = name :: aliasPieces byname := by
  rw [aliasPieces]
  split
  · next name' byname' hsome =>
    rw [h] at hsome
    cases hsome
    rw [aliasPieces_of_none (splitAlias?_of_splitAlias? h)]
    rfl
  · next hnone =>
    rw [h] at hnone
    cases hnone

theorem aliasPieces_ne_nil (name : String) : aliasPieces name ≠ [] := by
  cases h : splitAlias? name with
  | none =>
    rw [aliasPieces_of_none h]
    exact List.cons_ne_nil _ _
  | some parts =>
    rw [aliasPieces_of_some h]
    exact List.cons_ne_nil _ _

theorem aliasChain_eq (name : String) : aliasChain name = aliasPieces name := by
  have within : ∀ (fuel : Nat) (text : List Char), text.length ≤ fuel →
      (aliasChainWithin fuel text).map String.ofList = aliasPieces (String.ofList text) := by
    intro fuel
    induction fuel with
    | zero =>
      intro text htext
      have hnil : text = [] := List.eq_nil_of_length_eq_zero (by omega)
      rw [hnil]
      exact (aliasPieces_of_none rfl).symm
    | succ fuel ih =>
      intro text htext
      rw [aliasChainWithin]
      split
      · next name byname hsplit =>
        have hshorter := length_of_splitAliasChars? hsplit
        have hsome : splitAlias? (String.ofList text) =
            some (String.ofList name, String.ofList byname) := by
          rw [splitAlias?, String.toList_ofList, hsplit]
          rfl
        rw [aliasPieces_of_some hsome, ← ih byname (by omega)]
        rfl
      · next hsplit =>
        have hnone : splitAlias? (String.ofList text) = none := by
          rw [splitAlias?, String.toList_ofList, hsplit]
          rfl
        rw [aliasPieces_of_none hnone]
        rfl
  rw [aliasChain, within _ _ (Nat.le_of_eq String.length_toList), String.ofList_toList]

/-! ## Segments -/

/-- The texts between the dots of a name. -/
def dotSplit (name : String) : List String := (name.toList.splitOn '.').map String.ofList

/-- The segments with `pre` put before the one at a place. -/
def prefixAt (pre : String) (place : Nat) (segments : List String) : List String :=
  segments.modify place (pre ++ ·)

theorem splitDots_eq (text : List Char) : splitDots text = text.splitOn '.' := by
  induction text with
  | nil => rfl
  | cons c cs ih =>
    rw [List.splitOn, List.splitOnP_cons_eq_if_modifyHead, ← List.splitOn, ← ih, splitDots]
    by_cases hc : c = '.'
    · rw [if_pos hc, if_pos (by simpa using hc)]
    · rw [if_neg hc, if_neg (by simpa using hc)]
      cases hsplit : splitDots cs with
      | nil =>
        rw [ih] at hsplit
        exact absurd hsplit (List.splitOnP_ne_nil _ _)
      | cons segment rest => rfl

theorem segments_eq (name : String) : segments name = dotSplit name := by
  rw [segments, dotSplit, splitDots_eq]

theorem dotSplit_ne_nil (name : String) : dotSplit name ≠ [] := by
  rw [dotSplit, Ne, List.map_eq_nil_iff]
  exact List.splitOnP_ne_nil _ _

theorem prefixLast_eq (pre : String) {segments : List String} (h : segments ≠ []) :
    prefixLast pre segments = prefixAt pre (segments.length - 1) segments := by
  induction segments with
  | nil => exact absurd rfl h
  | cons segment rest ih =>
    cases rest with
    | nil => rfl
    | cons next rest =>
      rw [prefixLast, ih (List.cons_ne_nil _ _)]
      · rfl
      · exact List.cons_ne_nil _ _

theorem prefixOwner_eq (pre : String) (segments : List String) :
    prefixOwner pre segments =
      if 2 ≤ segments.length then prefixAt pre (segments.length - 2) segments else segments := by
  induction segments with
  | nil => rfl
  | cons segment rest ih =>
    rcases rest with _ | ⟨column, _ | ⟨next, rest⟩⟩
    · rfl
    · rfl
    · rw [prefixOwner, ih, if_pos (by simp), if_pos (by simp)]
      · rfl
      · exact fun table htable => nomatch htable

end SqlDialect.Identifier
