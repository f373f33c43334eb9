import SqlDialect.Dialect

/-!
# Texts without question marks

A question mark in a statement has to be a placeholder, so no other part of it may bring one. Names
are taken apart, prefixed, quoted and put together again; none of this makes a question mark
(`Spelling.unmarked_column`, `Spelling.unmarked_table`).
-/

namespace SqlDialect

/-- A text without a question mark. -/
def Unmarked (s : String) : Prop := '?' ∉ s.toList

instance (s : String) : Decidable (Unmarked s) := inferInstanceAs (Decidable ('?' ∉ s.toList))

@[simp] theorem unmarked_append {s t : String} : Unmarked (s ++ t) ↔ Unmarked s ∧ Unmarked t := by
  simp only [Unmarked, String.toList_append, List.mem_append, not_or]

@[simp] theorem unmarked_ofList {cs : List Char} : Unmarked (String.ofList cs) ↔ '?' ∉ cs := by
  rw [Unmarked, String.toList_ofList]

theorem unmarked_spaced {s t : String} (hs : Unmarked s) (ht : Unmarked t) :
    Unmarked (s ++ " " ++ t) :=
  unmarked_append.2 ⟨unmarked_append.2 ⟨hs, by decide⟩, ht⟩

theorem unmarked_intercalate {separator : String} (hs : Unmarked separator) {texts : List String}
    (h : ∀ t ∈ texts, Unmarked t) : Unmarked (separator.intercalate texts) := by
  induction texts with
  | nil => simp [Unmarked]
  | cons t rest ih =>
    obtain ⟨ht, hrest⟩ := List.forall_mem_cons.1 h
    cases rest with
    | nil => simpa using ht
    | cons u rest =>
      rw [String.intercalate_cons_cons, unmarked_append, unmarked_append]
      exact ⟨⟨ht, hs⟩, ih hrest⟩

/-- A number is written with digits. -/
theorem unmarked_repr (n : Nat) : Unmarked n.repr := by
  intro hmem
  have hdigit : ('?' : Char).isDigit = true :=
    Nat.isDigit_of_mem_toDigits (b := 10) (by decide) (by decide) (by simpa [Nat.repr] using hmem)
  exact absurd hdigit (by decide)

/-! ## Taking names apart -/

namespace Text

theorem mem_of_mem_trimStart {c : Char} {text : List Char} (h : c ∈ trimStart text) : c ∈ text :=
  (List.dropWhile_suffix isBlank).subset h

theorem mem_of_mem_trim {c : Char} {text : List Char} (h : c ∈ trim text) : c ∈ text := by
  have hrev : c ∈ trimStart (trimStart text).reverse := List.mem_reverse.1 h
  exact mem_of_mem_trimStart (List.mem_reverse.1 (mem_of_mem_trimStart hrev))

end Text

namespace Identifier

open Text

theorem mem_of_mem_doubledChars {c : Char} {cs : List Char} (h : c ∈ doubledChars cs) :
    c ∈ cs := by
  induction cs with
  | nil => exact h
  | cons d cs ih =>
    rw [doubledChars] at h
    split at h
    · next hd => grind
    · grind

theorem mem_of_mem_splitDots {c : Char} {text segment : List Char} (hs : segment ∈ splitDots text)
    (hc : c ∈ segment) : c ∈ text := by
  induction text generalizing segment with
  | nil => simp_all [splitDots]
  | cons d text ih =>
    rw [splitDots] at hs
    split at hs
    · rcases List.mem_cons.1 hs with rfl | hs
      · cases hc
      · exact List.mem_cons_of_mem d (ih hs hc)
    · split at hs
      · grind
      · grind

theorem mem_of_dropAs? {text rest : List Char} (h : dropAs? text = some rest) {c : Char}
    (hc : c ∈ rest) : c ∈ text := by
  unfold dropAs? at h
  split at h
  · split at h
    · cases h
      simp [hc]
    · cases h
  · cases h

theorem mem_of_cutAs? {text before after : List Char} (h : cutAs? text = some (before, after))
    {c : Char} (hc : c ∈ before ∨ c ∈ after) : c ∈ text := by
  induction text generalizing before with
  | nil => simp [cutAs?] at h
  | cons d text ih =>
    rw [cutAs?] at h
    split at h
    · next rest hrest =>
      cases h
      rcases hc with hc | hc
      · cases hc
      · exact mem_of_dropAs? hrest hc
    · obtain ⟨⟨b, a⟩, hba, heq⟩ := Option.map_eq_some_iff.1 h
      cases heq
      rcases hc with hc | hc
      · rcases List.mem_cons.1 hc with rfl | hc
        · exact List.mem_cons_self
        · exact List.mem_cons_of_mem d (ih hba (.inl hc))
      · exact List.mem_cons_of_mem d (ih hba (.inr hc))

theorem mem_of_splitAliasChars? {text name byname : List Char}
    (h : splitAliasChars? text = some (name, byname)) {c : Char}
    (hc : c ∈ name ∨ c ∈ byname) : c ∈ text := by
  obtain ⟨⟨b, a⟩, hba, heq⟩ := Option.map_eq_some_iff.1 h
  cases heq
  exact mem_of_cutAs? hba (hc.imp mem_of_mem_trim mem_of_mem_trim)

theorem mem_of_mem_aliasChainWithin {fuel : Nat} {text piece : List Char}
    (hp : piece ∈ aliasChainWithin fuel text) {c : Char} (hc : c ∈ piece) : c ∈ text := by
  induction fuel generalizing text with
  | zero => exact List.mem_singleton.1 hp ▸ hc
  | succ fuel ih =>
    rw [aliasChainWithin] at hp
    split at hp
    · next name byname h =>
      rcases List.mem_cons.1 hp with rfl | hp
      · exact mem_of_splitAliasChars? h (.inl hc)
      · exact mem_of_splitAliasChars? h (.inr (ih hp))
    · exact List.mem_singleton.1 hp ▸ hc

end Identifier

/-! ## Names as they are written -/

/-- Whether a column, by its name or its text, brings no question mark. -/
def Column.Unmarked : Column → Prop
  | .named name => SqlDialect.Unmarked name
  | .raw sql => SqlDialect.Unmarked sql

/-- Whether the text of an operand, if it has one, brings no question mark. -/
def Operand.Unmarked : Operand → Prop
  | .literal _ => True
  | .raw sql => SqlDialect.Unmarked sql

namespace Identifier

theorem unmarked_segments {name : String} (h : Unmarked name) {segment : String}
    (hs : segment ∈ segments name) : Unmarked segment := by
  obtain ⟨cs, hcs, rfl⟩ := List.mem_map.1 hs
  exact unmarked_ofList.2 fun hmem => h (mem_of_mem_splitDots hcs hmem)

theorem unmarked_aliasChain {name : String} (h : Unmarked name) {piece : String}
    (hp : piece ∈ aliasChain name) : Unmarked piece := by
  obtain ⟨cs, hcs, rfl⟩ := List.mem_map.1 hp
  exact unmarked_ofList.2 fun hmem => h (mem_of_mem_aliasChainWithin hcs hmem)

theorem unmarked_splitAlias? {text name byname : String} (h : Unmarked text)
    (hsplit : splitAlias? text = some (name, byname)) : Unmarked name ∧ Unmarked byname := by
  obtain ⟨⟨cs, ds⟩, hcs, heq⟩ := Option.map_eq_some_iff.1 hsplit
  cases heq
  exact ⟨unmarked_ofList.2 fun hmem => h (mem_of_splitAliasChars? hcs (.inl hmem)),
    unmarked_ofList.2 fun hmem => h (mem_of_splitAliasChars? hcs (.inr hmem))⟩

theorem unmarked_doubled {text : String} (h : Unmarked text) : Unmarked (doubled text) :=
  unmarked_ofList.2 fun hmem => h (mem_of_mem_doubledChars hmem)

theorem unmarked_quoted {segment : String} (h : Unmarked segment) : Unmarked (quoted segment) := by
  unfold quoted
  split
  · exact h
  · exact unmarked_append.2 ⟨unmarked_append.2 ⟨by decide, unmarked_doubled h⟩, by decide⟩

theorem unmarked_prefixLast {pre : String} (hpre : Unmarked pre) {names : List String}
    (h : ∀ name ∈ names, Unmarked name) : ∀ name ∈ prefixLast pre names, Unmarked name := by
  fun_induction prefixLast pre names with
  | case1 => exact h
  | case2 table =>
    intro name hname
    rw [List.mem_singleton.1 hname]
    exact unmarked_append.2 ⟨hpre, h table List.mem_cons_self⟩
  | case3 segment rest hrest ih =>
    obtain ⟨hsegment, htail⟩ := List.forall_mem_cons.1 h
    exact List.forall_mem_cons.2 ⟨hsegment, ih htail⟩

theorem unmarked_prefixOwner {pre : String} (hpre : Unmarked pre) {names : List String}
    (h : ∀ name ∈ names, Unmarked name) : ∀ name ∈ prefixOwner pre names, Unmarked name := by
  fun_induction prefixOwner pre names with
  | case1 table column =>
    obtain ⟨htable, hcolumn⟩ := List.forall_mem_cons.1 h
    exact List.forall_mem_cons.2 ⟨unmarked_append.2 ⟨hpre, htable⟩, hcolumn⟩
  | case2 segment rest hrest ih =>
    obtain ⟨hsegment, htail⟩ := List.forall_mem_cons.1 h
    exact List.forall_mem_cons.2 ⟨hsegment, ih htail⟩
  | case3 => exact h

end Identifier

namespace Spelling

/-- The spelling makes no question mark where a name brings none. -/
structure KeepsUnmarked (s : Spelling) : Prop where
  tablePrefix : Unmarked s.tablePrefix
  quote : ∀ segment, Unmarked segment → Unmarked (s.quote segment)

variable {s : Spelling} (h : s.KeepsUnmarked)

include h

theorem unmarked_path {segments : List String} (hs : ∀ segment ∈ segments, Unmarked segment) :
    Unmarked (s.path segments) := by
  refine unmarked_intercalate (by decide) fun t ht => ?_
  obtain ⟨segment, hsegment, rfl⟩ := List.mem_map.1 ht
  exact h.quote segment (hs segment hsegment)

theorem unmarked_table {name : String} (hn : Unmarked name) : Unmarked (s.table name) := by
  refine unmarked_intercalate (by decide) fun t ht => ?_
  obtain ⟨piece, hpiece, rfl⟩ := List.mem_map.1 ht
  have hp : Unmarked piece := Identifier.unmarked_aliasChain hn hpiece
  exact unmarked_path h (Identifier.unmarked_prefixLast h.tablePrefix fun segment hs =>
    Identifier.unmarked_segments hp hs)

theorem unmarked_columnPath {name : String} (hn : Unmarked name) : Unmarked (s.columnPath name) :=
  unmarked_path h (Identifier.unmarked_prefixOwner h.tablePrefix fun _ hs =>
    Identifier.unmarked_segments hn hs)

theorem unmarked_columnName {name : String} (hn : Unmarked name) :
    Unmarked (s.columnName name) := by
  unfold columnName
  split
  · next before byname hsplit =>
    obtain ⟨hbefore, hbyname⟩ := Identifier.unmarked_splitAlias? hn hsplit
    exact unmarked_append.2
      ⟨unmarked_append.2 ⟨unmarked_columnPath h hbefore, by decide⟩, h.quote byname hbyname⟩
  · exact unmarked_columnPath h hn

theorem unmarked_column {c : Column} (hc : c.Unmarked) : Unmarked (s.column c) := by
  cases c with
  | named name => exact unmarked_columnName h hc
  | raw sql => exact hc

theorem unmarked_columns {cs : List Column} (hcs : ∀ c ∈ cs, c.Unmarked) :
    Unmarked (s.columns cs) := by
  refine unmarked_intercalate (by decide) fun t ht => ?_
  obtain ⟨c, hc, rfl⟩ := List.mem_map.1 ht
  exact unmarked_column h (hcs c hc)

end Spelling

end SqlDialect
