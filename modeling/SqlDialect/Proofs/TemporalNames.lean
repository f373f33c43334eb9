import SqlDialect.Db2.Dialect
import SqlDialect.Proofs.Patterns.Matching

/-!
# Names of times

Unless it is told otherwise, DB2 casts the columns whose names end in `_at`, `_date` or `_time`, in
any case of the ASCII letters (`Db2.EndsLikeTime`). The policy is a pattern that is searched for
anywhere in a name, and such an ending is all that it finds (`Db2.CastPolicy.casts_temporal_iff`).
Characters beyond ASCII are never taken for those of an ending, and nothing may follow it, not even
a line break. A match in upper case casts the columns with these names and no others
(`Db2.temporal_casts_exactly`).
-/

namespace SqlDialect

open Text

namespace Db2

open Pattern

/-! ## Words in either case -/

theorem has_eitherCase {letter c : Char} (h : letter.isLower = true) :
    Ranges.has [(letter.toNat - 32, letter.toNat - 32), (letter.toNat, letter.toNat)] c = true ↔
      c.toLower = letter := by
  have hletter := isLower_iff.1 h
  rw [← Char.toNat_inj, toNat_toLower, Ranges.has_iff]
  simp only [List.mem_cons, List.not_mem_nil, or_false, exists_eq_or_imp, exists_eq_left]
  split <;> omega

/-- A word is matched in either case exactly if it stands in the text in lower case. -/
theorem spansAll_eitherCase_iff {text word : List Char} (hword : word.all Char.isLower = true)
    {i j : Nat} : SpansAll text (word.map CastPolicy.eitherCase) i j ↔
      word <+: (text.map Char.toLower).drop i ∧ j = i + word.length := by
  induction word generalizing i with
  | nil => simp [SpansAll, eq_comm]
  | cons letter word ih =>
    rw [List.all_cons, Bool.and_eq_true] at hword
    obtain ⟨hletter, hrest⟩ := hword
    rw [cons_isPrefix_drop_iff, List.getElem?_map, Option.map_eq_some_iff, List.length_cons]
    simp only [List.map_cons, SpansAll, CastPolicy.eitherCase, Spans, has_eitherCase hletter,
      ih hrest]
    constructor
    · rintro ⟨_, ⟨hc, rfl⟩, hprefix, rfl⟩
      exact ⟨⟨hc, hprefix⟩, by omega⟩
    · rintro ⟨⟨hc, hprefix⟩, rfl⟩
      exact ⟨i + 1, ⟨hc, rfl⟩, hprefix, by omega⟩

/-! ## Endings -/

/-- The endings of the names of times. -/
def timeEndings : List String := ["_at", "_date", "_time"]

/-- Whether a name ends like that of a time, in any case of the ASCII letters. -/
def EndsLikeTime (name : String) : Prop :=
  ∃ ending ∈ timeEndings, ending.toList <:+ name.toList.map Char.toLower

instance (name : String) : Decidable (EndsLikeTime name) :=
  inferInstanceAs (Decidable (∃ ending ∈ timeEndings,
    ending.toList <:+ name.toList.map Char.toLower))

/-- The words of the endings, without the underscore. -/
def timeWords : List (List Char) := ["at".toList, "date".toList, "time".toList]

theorem endsLikeTime_iff {name : String} :
    EndsLikeTime name ↔ ∃ word ∈ timeWords, '_' :: word <:+ name.toList.map Char.toLower := by
  simp [EndsLikeTime, timeEndings, timeWords]

namespace CastPolicy

theorem temporalPattern_eq : temporalPattern =
    .seq [
      .capture (.seq [
        .literal ['_'], .alt (timeWords.map fun word => .seq (word.map eitherCase))]),
      .look .textEnd] := rfl

theorem spansAny_words_iff {text : List Char} {i j : Nat} :
    SpansAny text (timeWords.map fun word => .seq (word.map eitherCase)) i j ↔
      ∃ word ∈ timeWords, word <+: (text.map Char.toLower).drop i ∧ j = i + word.length := by
  have hlower : ∀ word ∈ timeWords, word.all Char.isLower = true := by decide
  rw [spansAny_iff]
  constructor
  · rintro ⟨p, hp, hspans⟩
    obtain ⟨word, hmem, rfl⟩ := List.mem_map.1 hp
    exact ⟨word, hmem, (spansAll_eitherCase_iff (hlower word hmem)).1 hspans⟩
  · rintro ⟨word, hmem, hspans⟩
    exact ⟨_, List.mem_map_of_mem hmem, (spansAll_eitherCase_iff (hlower word hmem)).2 hspans⟩

/-- What the pattern matches: an underscore and a word behind it, up to the end of the text. -/
theorem spans_temporalPattern_iff {text : List Char} {i j : Nat} :
    Spans text temporalPattern i j ↔ text[j]? = none ∧
      ∃ word ∈ timeWords, '_' :: word <+: (text.map Char.toLower).drop i ∧
        j = i + 1 + word.length := by
  have hmark : (text.map Char.toLower)[i]? = some '_' ↔ ['_'] <+: text.drop i := by
    rw [cons_isPrefix_drop_iff, List.getElem?_map, Option.map_eq_some_iff]
    simp [toLower_eq_iff (d := '_') rfl rfl]
  simp only [temporalPattern_eq, Spans, SpansAll, spansAny_words_iff, Look.holds,
    Option.isNone_iff_eq_none, @cons_isPrefix_drop_iff _ _ (text.map Char.toLower), hmark]
  constructor
  · rintro ⟨j, ⟨_, ⟨hunderscore, rfl⟩, _, ⟨word, hmem, hword, rfl⟩, rfl⟩, _, ⟨rfl, hend⟩, rfl⟩
    exact ⟨hend, word, hmem, ⟨hunderscore, hword⟩, rfl⟩
  · rintro ⟨hend, word, hmem, ⟨hunderscore, hword⟩, rfl⟩
    exact ⟨_, ⟨_, ⟨hunderscore, rfl⟩, _, ⟨word, hmem, hword, rfl⟩, rfl⟩, _, ⟨rfl, hend⟩, rfl⟩

/-- **A column is cast exactly if its name ends like that of a time**, wherever a search for such an
ending begins. -/
theorem casts_temporal_iff {name : String} : temporal.casts name = true ↔ EndsLikeTime name := by
  have hlength : (name.toList.map Char.toLower).length = name.toList.length := List.length_map _
  rw [casts, isIn_iff, endsLikeTime_iff]
  simp only [temporal, spans_temporalPattern_iff, List.getElem?_eq_none_iff]
  constructor
  · rintro ⟨i, j, hi, hend, word, hmem, hprefix, rfl⟩
    -- What the word leaves of the name is not longer than the rest behind it, so it is all of it.
    have hrest : '_' :: word = (name.toList.map Char.toLower).drop i := by
      refine hprefix.eq_of_length_le ?_
      rw [List.length_drop, hlength, List.length_cons]
      omega
    exact ⟨word, hmem, hrest ▸ List.drop_suffix i _⟩
  · rintro ⟨word, hmem, hsuffix⟩
    have hshort := hsuffix.length_le
    rw [hlength, List.length_cons] at hshort
    have hrest := List.suffix_iff_eq_drop.1 hsuffix
    rw [hlength, List.length_cons] at hrest
    exact ⟨name.toList.length - (word.length + 1), name.toList.length, Nat.sub_le _ _,
      Nat.le_refl _, word, hmem, hrest ▸ List.prefix_rfl, by omega⟩

end CastPolicy

namespace EndsLikeTime

variable {name : String} {c : Char}

/-- All characters of an ending are ASCII, in the name as it is given. -/
theorem exists_ascii (h : EndsLikeTime name) : ∃ stem ending : String, name = stem ++ ending ∧
    (∀ c ∈ ending.toList, c.toNat < 128) ∧
    ending.toList.map Char.toLower ∈ timeEndings.map String.toList := by
  have hascii : ∀ ending ∈ timeEndings.map String.toList,
      ending.all (fun c => decide (c.toNat < 128)) = true := by decide
  obtain ⟨ending, hmem, front, hsplit⟩ := h
  obtain ⟨stem, written, hname, -, hwritten⟩ := List.map_eq_append_iff.1 hsplit.symm
  have hlower : written.map Char.toLower ∈ timeEndings.map String.toList :=
    hwritten ▸ List.mem_map_of_mem hmem
  refine ⟨.ofList stem, .ofList written, ?_, fun c hc => ?_, ?_⟩
  · rw [← String.ofList_append, ← hname, String.ofList_toList]
  · -- A letter in lower case is no smaller than the letter itself.
    have hsmall := of_decide_eq_true (List.all_eq_true.1 (hascii _ hlower) _
      (List.mem_map_of_mem (String.toList_ofList ▸ hc)))
    rw [toNat_toLower] at hsmall
    split at hsmall <;> omega
  · rwa [String.toList_ofList]

theorem exists_of_push (h : EndsLikeTime (name.push c)) :
    ∃ front, front ++ [c.toLower] ∈ timeEndings.map String.toList ∧
      front <:+ name.toList.map Char.toLower := by
  have hne : ∀ ending ∈ timeEndings, ending.toList ≠ [] := by decide
  obtain ⟨ending, hmem, hsuffix⟩ := h
  rw [String.toList_push, List.map_append, List.map_singleton, List.suffix_concat_iff] at hsuffix
  obtain hempty | ⟨front, hending, hfront⟩ := hsuffix
  · exact absurd hempty (hne ending hmem)
  · exact ⟨front, hending ▸ List.mem_map_of_mem hmem, hfront⟩

/-- The last letter of an ending is one of two. -/
theorem toLower_of_push (h : EndsLikeTime (name.push c)) : c.toLower = 't' ∨ c.toLower = 'e' := by
  have hlast : ∀ ending ∈ timeEndings.map String.toList,
      ending.getLast? = some 't' ∨ ending.getLast? = some 'e' := by decide
  obtain ⟨front, hmem, -⟩ := h.exists_of_push
  simpa using hlast _ hmem

/-- No ending is left once a character follows, whatever it is. -/
theorem not_push (h : EndsLikeTime name) : ¬ EndsLikeTime (name.push c) := by
  -- An ending without its last letter does not overlap with an ending.
  have hapart : ∀ ending ∈ timeEndings, ∀ next ∈ timeEndings.map String.toList,
      ¬ ending.toList <:+ next.dropLast ∧ ¬ next.dropLast <:+ ending.toList := by decide
  obtain ⟨ending, hmem, hsuffix⟩ := h
  intro hpush
  obtain ⟨front, hnext, hfront⟩ := hpush.exists_of_push
  have hsides := hapart ending hmem _ hnext
  rw [List.dropLast_concat] at hsides
  exact (List.suffix_or_suffix_of_suffix hsuffix hfront).elim hsides.1 hsides.2

end EndsLikeTime

/-! ## Columns that are matched -/

/-- A named column in upper case under the default policy. -/
theorem upperColumn_temporal (s : Spelling) (name : String) :
    upperColumn s .temporal (.named name) =
      if EndsLikeTime name then "UPPER(CHAR(" ++ s.columnName name ++ "))"
      else "UPPER(" ++ s.columnName name ++ ")" := by
  simp only [upperColumn, CastPolicy.casts_temporal_iff]

/-- **The default policy casts the names that end like those of times, and no others.** All
characters of the ending are ASCII, and nothing follows them, neither a line break nor anything
else. So a match in upper case casts exactly the columns with these names. -/
theorem temporal_casts_exactly :
    (∀ name, CastPolicy.temporal.casts name = true ↔ EndsLikeTime name) ∧
    (∀ name, CastPolicy.temporal.casts name = true → ∃ stem ending : String,
      name = stem ++ ending ∧ (∀ c ∈ ending.toList, c.toNat < 128) ∧
      ending.toList.map Char.toLower ∈ timeEndings.map String.toList) ∧
    (∀ (name : String) (c : Char), CastPolicy.temporal.casts name = true →
      CastPolicy.temporal.casts (name.push c) = false) ∧
    (∀ (name : String) (c : Char), c.toLower ≠ 't' → c.toLower ≠ 'e' →
      CastPolicy.temporal.casts (name.push c) = false) ∧
    ∀ (c : Connection) (operator like name : String) (operand : Operand),
      c.castPolicy = .temporal → likeOperator? operator = some like →
      c.dialect.predicate (.compare (.named name) operator operand) =
        (if EndsLikeTime name then "UPPER(CHAR(" ++ c.spelling.columnName name ++ "))"
        else "UPPER(" ++ c.spelling.columnName name ++ ")") ++ " " ++ like ++ " " ++
          upperOperand c.spelling operand := by
  have hcasts : ∀ {name}, CastPolicy.temporal.casts name = true ↔ EndsLikeTime name :=
    CastPolicy.casts_temporal_iff
  refine ⟨fun _ => hcasts, fun name h => (hcasts.1 h).exists_ascii, fun name c h => ?_,
    fun name c ht he => ?_, fun c operator like name operand hpolicy hlike => ?_⟩
  · exact Bool.eq_false_iff.2 fun hpush => (hcasts.1 h).not_push (hcasts.1 hpush)
  · exact Bool.eq_false_iff.2 fun hpush => (hcasts.1 hpush).toLower_of_push.elim ht he
  · simp only [Dialect.predicate, Connection.dialect, compare, hlike, hpolicy,
      upperColumn_temporal]

/-- A name in mixed case, with a table before it, and the same name with a line break behind it. -/
theorem temporal_casts_exactly_createdAt :
    CastPolicy.temporal.casts "users.Created_AT" = true ∧
    CastPolicy.temporal.casts ("users.Created_AT".push '\n') = false ∧
    ({} : Connection).castPolicy = .temporal ∧ likeOperator? " not like" = some "NOT LIKE" ∧
    ({} : Connection).dialect.predicate
        (.compare (.named "users.Created_AT") " not like" (.literal (.text "2024%"))) =
      "UPPER(CHAR(\"users\".\"Created_AT\")) NOT LIKE UPPER(?)" ∧
    ({} : Connection).dialect.predicate
        (.compare (.named "users.created_at\n") " not like" (.literal (.text "2024%"))) =
      "UPPER(\"users\".\"created_at\n\") NOT LIKE UPPER(?)" := by
  obtain ⟨hcasts, -, hpush, -, hlike⟩ := temporal_casts_exactly
  have hending : EndsLikeTime "users.Created_AT" := by decide
  have hbreak : ¬ EndsLikeTime "users.created_at\n" := by decide
  have hname := (hcasts "users.Created_AT").2 hending
  have hoperator : likeOperator? " not like" = some "NOT LIKE" := by decide
  refine ⟨hname, hpush _ '\n' hname, rfl, hoperator, ?_, ?_⟩
  · rw [hlike {} _ _ _ _ rfl hoperator, if_pos hending]
    decide +kernel
  · rw [hlike {} _ _ _ _ rfl hoperator, if_neg hbreak]
    decide +kernel

end Db2

end SqlDialect
