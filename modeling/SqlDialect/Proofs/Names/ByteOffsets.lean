import SqlDialect.Proofs.CorrelationNames

/-!
# Cutting names at byte offsets

A name can be cut at its alias without going through its characters: ` as ` is searched for in a
copy in lower case, and the name itself is cut at the byte offset where the copy has it
(`Identifier.cutAlias`). This never cuts through a character, since lower case of ASCII leaves every
character at its size, and it is the cut that names are written with (`Identifier.cutAlias_eq`).

A name is written by calls on its parts (`Spelling.writeName`, `Spelling.writeTable`): what stands
around ` as ` is cut again, and what stands before the last dot of a column is written as a table.
Every part is shorter than the name, so that calls as deep as the name is long are enough
(`Spelling.writeName_eq`, `Spelling.writeTable_eq`).
-/

namespace SqlDialect

/-! ## Sizes in bytes -/

namespace Text

theorem utf8Size_toLower (c : Char) : c.toLower.utf8Size = c.utf8Size := by
  have hlower := toNat_toLower c
  by_cases hc : 65 ≤ c.toNat ∧ c.toNat ≤ 90
  · -- A capital letter and its counterpart are both ASCII.
    have hsize : ∀ {d : Char}, d.toNat ≤ 127 → d.utf8Size = 1 := fun hd =>
      Char.utf8Size_eq_one_iff.2 hd
    rw [if_pos hc] at hlower
    rw [hsize (by omega), hsize (by omega)]
  · rw [if_neg hc] at hlower
    rw [Char.toNat_inj.1 hlower]

theorem toList_toLower (text : String) : text.toLower.toList = text.toList.map Char.toLower :=
  String.toList_map

theorem length_toLower (text : String) : text.toLower.length = text.length :=
  String.length_map

theorem toLower_append (text more : String) :
    (text ++ more).toLower = text.toLower ++ more.toLower := by
  rw [← String.toList_inj]
  simp only [toList_toLower, String.toList_append, List.map_append]

theorem utf8ByteSize_toLower (text : String) : text.toLower.utf8ByteSize = text.utf8ByteSize := by
  have hsize : ∀ cs : List Char, (String.ofList (cs.map Char.toLower)).utf8ByteSize =
      (String.ofList cs).utf8ByteSize := by
    intro cs
    induction cs with
    | nil => rfl
    | cons c cs ih =>
      rw [List.map_cons, String.ofList_cons, String.ofList_cons, String.utf8ByteSize_append,
        String.utf8ByteSize_append, String.utf8ByteSize_singleton, String.utf8ByteSize_singleton,
        utf8Size_toLower, ih]
  have htext := hsize text.toList
  rwa [← toList_toLower, String.ofList_toList, String.ofList_toList] at htext

/-- The text without the blanks at its two ends. -/
def trimmed (text : String) : String := String.ofList (trim text.toList)

end Text

namespace Identifier

open Text

/-! ## The first ` as ` -/

/-- ` as `, in some case of its two letters, stands between two parts of a text and nowhere
earlier. -/
structure FirstAs (text before mark after : String) : Prop where
  eq_append : text = before ++ mark ++ after
  isAs : mark.toLower = " as "
  first : ∀ front mark' back : String, text = front ++ mark' ++ back → mark'.toLower = " as " →
    before.length ≤ front.length

theorem toLower_eq_as_iff {mark : String} :
    mark.toLower = " as " ↔ mark.toList.map Char.toLower = [' ', 'a', 's', ' '] := by
  rw [← String.toList_inj, toList_toLower]
  rfl

theorem FirstAs.mentionsAs {text before mark after : String}
    (h : FirstAs text before mark after) : MentionsAs text := by
  refine ⟨mark.toList, ⟨before.toList, after.toList, ?_⟩, toLower_eq_as_iff.1 h.isAs⟩
  rw [h.eq_append, String.toList_append, String.toList_append]

theorem FirstAs.length_mark {text before mark after : String}
    (h : FirstAs text before mark after) : mark.length = 4 := by
  rw [← length_toLower, h.isAs]
  rfl

/-- There is only one first ` as `. -/
theorem FirstAs.unique {text before mark after before' mark' after' : String}
    (h : FirstAs text before mark after) (h' : FirstAs text before' mark' after') :
    before = before' ∧ mark = mark' ∧ after = after' := by
  have hbefore : before.length = before'.length :=
    Nat.le_antisymm (h.first _ _ _ h'.eq_append h'.isAs) (h'.first _ _ _ h.eq_append h.isAs)
  have hmark : mark.length = mark'.length := h.length_mark.trans h'.length_mark.symm
  have htext : before.toList ++ mark.toList ++ after.toList =
      before'.toList ++ mark'.toList ++ after'.toList := by
    simp only [← String.toList_append]
    rw [← h.eq_append, ← h'.eq_append]
  obtain ⟨hfront, hafter⟩ := List.append_inj htext (by
    simp only [List.length_append, String.length_toList, hbefore, hmark])
  obtain ⟨hbefore, hmark⟩ := List.append_inj hfront (by simpa only [String.length_toList])
  exact ⟨String.toList_inj.1 hbefore, String.toList_inj.1 hmark, String.toList_inj.1 hafter⟩

theorem exists_as_of_cutAs? {text before after : List Char}
    (h : cutAs? text = some (before, after)) :
    (∃ mark, mark.map Char.toLower = [' ', 'a', 's', ' '] ∧ text = before ++ mark ++ after) ∧
      ∀ front mark back, mark.map Char.toLower = [' ', 'a', 's', ' '] →
        text = front ++ mark ++ back → before.length ≤ front.length := by
  induction text generalizing before with
  | nil => cases h
  | cons c cs ih =>
    rw [cutAs?] at h
    split at h
    · next rest hdrop =>
      cases h
      obtain ⟨mark, hmark, htext⟩ := dropAs?_eq_some_iff.1 hdrop
      exact ⟨⟨mark, hmark, htext⟩, fun _ _ _ _ _ => Nat.zero_le _⟩
    · next hdrop =>
      obtain ⟨⟨before', after'⟩, hcut, heq⟩ := Option.map_eq_some_iff.1 h
      cases heq
      obtain ⟨⟨mark, hmark, htext⟩, hfirst⟩ := ih hcut
      refine ⟨⟨mark, hmark, congrArg (c :: ·) htext⟩, fun front mark' back hmark' htext' => ?_⟩
      cases front with
      | nil =>
        -- An ` as ` that begins here would have been cut at.
        rw [dropAs?_eq_some_iff.2 ⟨mark', hmark', htext'⟩] at hdrop
        cases hdrop
      | cons d front =>
        have hrest := hfirst front mark' back hmark' (List.cons.inj htext').2
        exact Nat.succ_le_succ hrest

/-- The parts around ` as ` are around the first one if the text is cut there. -/
theorem FirstAs.of_cutAs? {text before mark after : String} (htext : text = before ++ mark ++ after)
    (hmark : mark.toLower = " as ")
    (hcut : cutAs? text.toList = some (before.toList, after.toList)) :
    FirstAs text before mark after := by
  refine ⟨htext, hmark, fun front mark' back htext' hmark' => ?_⟩
  have hfirst := (exists_as_of_cutAs? hcut).2 front.toList mark'.toList back.toList
    (toLower_eq_as_iff.1 hmark') (by rw [htext', String.toList_append, String.toList_append])
  simpa only [String.length_toList] using hfirst

theorem exists_firstAs_of_cutAs? {text : String} {before after : List Char}
    (h : cutAs? text.toList = some (before, after)) :
    ∃ mark, FirstAs text (.ofList before) mark (.ofList after) := by
  obtain ⟨⟨mark, hmark, htext⟩, -⟩ := exists_as_of_cutAs? h
  refine ⟨.ofList mark, .of_cutAs? ?_ (toLower_eq_as_iff.2 ?_) ?_⟩
  · rw [← String.ofList_append, ← String.ofList_append, ← htext, String.ofList_toList]
  · rwa [String.toList_ofList]
  · rw [String.toList_ofList, String.toList_ofList, h]

theorem exists_firstAs_of_mentionsAs {text : String} (h : MentionsAs text) :
    ∃ before mark after, cutAs? text.toList = some (before, after) ∧
      FirstAs text (.ofList before) mark (.ofList after) := by
  cases hcut : cutAs? text.toList with
  | none =>
    refine absurd h (splitAlias?_eq_none_iff.1 ?_)
    rw [splitAlias?, splitAliasChars?, hcut]
    rfl
  | some parts =>
    obtain ⟨mark, hfirst⟩ := exists_firstAs_of_cutAs? hcut
    exact ⟨_, mark, _, rfl, hfirst⟩

/-- **A text that mentions ` as ` has a first one.** -/
theorem exists_firstAs_iff {text : String} :
    (∃ before mark after, FirstAs text before mark after) ↔ MentionsAs text := by
  constructor
  · rintro ⟨before, mark, after, h⟩
    exact h.mentionsAs
  · intro h
    obtain ⟨before, mark, after, -, hfirst⟩ := exists_firstAs_of_mentionsAs h
    exact ⟨_, mark, _, hfirst⟩

/-- A name is what stands before the first ` as `, and its alias what stands behind it. -/
theorem FirstAs.splitAlias?_eq {text before mark after : String}
    (h : FirstAs text before mark after) :
    splitAlias? text = some (trimmed before, trimmed after) := by
  obtain ⟨before', mark', after', hcut, hfirst⟩ := exists_firstAs_of_mentionsAs h.mentionsAs
  obtain ⟨rfl, -, rfl⟩ := h.unique hfirst
  rw [splitAlias?, splitAliasChars?, hcut, trimmed, trimmed, String.toList_ofList,
    String.toList_ofList]
  rfl

/-! ## Searching the text in lower case -/

/-- The byte offset of the first ` as ` in the copy of a text in lower case. -/
def asOffset? (text : String) : Option String.Pos.Raw :=
  (text.toLower.find? " as ").map fun place => place.offset

open String.Slice.Pattern.Model in
/-- A search finds the first place where a text stands. -/
theorem splits_of_find? {part text : String} (hpart : part ≠ "") {place : text.Pos}
    (h : text.find? part = some place) :
    ∃ before after, place.Splits before (part ++ after) ∧
      ∀ front back, text = front ++ part ++ back → before.length ≤ front.length := by
  have hstrict := ForwardStringSearcher.strictPatternModel hpart
  have hlawful := ForwardStringSearcher.lawfulToForwardSearcherModel hpart
  rw [String.find?_eq_find?_toSlice] at h
  obtain ⟨found, hfound, rfl⟩ := Option.map_eq_some_iff.1 h
  obtain ⟨hmatch, hfirst⟩ := (find?_eq_some_iff part).1 hfound
  obtain ⟨before, after, hsplits⟩ := ForwardStringSearcher.matchesAt_iff_splits.1 hmatch
  refine ⟨before, after, String.Slice.Pos.splits_ofToSlice_iff.2 hsplits, ?_⟩
  intro front back htext
  -- No place before the one found matches, so none that matches is before it.
  rw [String.append_assoc] at htext
  have hother := (String.Pos.splits_ofEqAppend htext).toSlice
  have hle : found ≤ (String.Pos.ofEqAppend htext).toSlice := Std.not_lt.1 fun hlt =>
    hfirst _ hlt (ForwardStringSearcher.matchesAt_iff_splits.2 ⟨front, back, hother⟩)
  obtain ⟨between, hbetween, -⟩ := (hsplits.le_iff_exists_eq_append hother).1 hle
  rw [hbetween, String.length_append]
  exact Nat.le_add_right _ _

/-- **The offset found in the copy is where ` as ` first stands in the text itself.** -/
theorem firstAs_of_asOffset? {text : String} {offset : String.Pos.Raw}
    (h : asOffset? text = some offset) :
    ∃ before mark after, FirstAs text before mark after ∧ offset = before.rawEndPos := by
  obtain ⟨place, hfind, rfl⟩ := Option.map_eq_some_iff.1 h
  obtain ⟨lowerBefore, lowerAfter, hsplits, hfirst⟩ := splits_of_find? (by decide) hfind
  have hlower : text.toList.map Char.toLower =
      lowerBefore.toList ++ (" as ".toList ++ lowerAfter.toList) := by
    rw [← String.toList_append, ← String.toList_append, ← hsplits.eq_append, toList_toLower]
  obtain ⟨before, rest, htext, hbefore, hrest⟩ := List.map_eq_append_iff.1 hlower
  obtain ⟨mark, after, rfl, hmark, -⟩ := List.map_eq_append_iff.1 hrest
  have hcopy : lowerBefore = (String.ofList before).toLower := by
    rw [← String.toList_inj, toList_toLower, String.toList_ofList, hbefore]
  refine ⟨.ofList before, .ofList mark, .ofList after, ⟨?_, ?_, ?_⟩, ?_⟩
  · rw [← String.ofList_append, ← String.ofList_append, List.append_assoc, ← htext,
      String.ofList_toList]
  · rw [← String.toList_inj, toList_toLower, String.toList_ofList, hmark]
  · intro front mark' back htext' hmark'
    have hle := hfirst front.toLower back.toLower (by
      rw [htext', toLower_append, toLower_append, hmark'])
    rwa [hcopy, length_toLower, length_toLower] at hle
  · rw [hsplits.offset_eq_rawEndPos, hcopy, String.Pos.Raw.ext_iff, String.byteIdx_rawEndPos,
      String.byteIdx_rawEndPos, utf8ByteSize_toLower]

/-- Where there is an ` as `, the search in the copy finds it. -/
theorem FirstAs.asOffset?_eq {text before mark after : String}
    (h : FirstAs text before mark after) : asOffset? text = some before.rawEndPos := by
  cases hoffset : asOffset? text with
  | none =>
    have hnone : text.toLower.toSlice.find? " as " = none :=
      Option.map_eq_none_iff.1 (Option.map_eq_none_iff.1 hoffset)
    have hnot : text.toLower.contains " as " = false := (String.Slice.find?_eq_none_iff _).1 hnone
    refine absurd ⟨before.toLower.toList, after.toLower.toList, ?_⟩
      (String.contains_string_eq_false_iff.1 hnot)
    rw [h.eq_append, toLower_append, toLower_append, h.isAs, String.toList_append,
      String.toList_append]
  | some offset =>
    obtain ⟨before', mark', after', hfirst, rfl⟩ := firstAs_of_asOffset? hoffset
    rw [(h.unique hfirst).1]

theorem asOffset?_eq_none_iff {text : String} : asOffset? text = none ↔ ¬ MentionsAs text := by
  constructor
  · intro hnone hmentions
    obtain ⟨before, mark, after, hfirst⟩ := exists_firstAs_iff.2 hmentions
    rw [hfirst.asOffset?_eq] at hnone
    cases hnone
  · intro hnot
    cases hoffset : asOffset? text with
    | none => rfl
    | some offset =>
      obtain ⟨before, mark, after, hfirst, -⟩ := firstAs_of_asOffset? hoffset
      exact absurd hfirst.mentionsAs hnot

/-! ## Cutting at offsets -/

/-- Why a name is not written. -/
inductive Obstacle
  /-- An offset that is inside of a character or beyond the end of the text. -/
  | noBoundary
  /-- Calls within calls, more than are allowed. -/
  | tooDeep

/-- The place in a text that has a byte offset. -/
def placeAt (text : String) (offset : String.Pos.Raw) : Except Obstacle text.Pos :=
  if h : offset.IsValid text then .ok (text.pos offset h) else .error .noBoundary

/-- A name and its alias, cut at the byte offsets of ` as ` in the copy in lower case. -/
def cutAlias (text : String) : Except Obstacle (Option (String × String)) :=
  match asOffset? text with
  | none => return none
  | some offset => do
    let start ← placeAt text offset
    let stop ← placeAt text (offset.increaseBy 4)
    return some (trimmed (text.sliceTo start).copy, trimmed (text.sliceFrom stop).copy)

theorem placeAt_append {text before after : String} (h : text = before ++ after) :
    ∃ place, placeAt text before.rawEndPos = .ok place ∧ place.Splits before after := by
  have hvalid : before.rawEndPos.IsValid text :=
    String.Pos.Raw.isValid_iff_exists_append.2 ⟨before, after, h, rfl⟩
  exact ⟨text.pos _ hvalid, dif_pos hvalid, h, rfl⟩

theorem FirstAs.utf8ByteSize_mark {text before mark after : String}
    (h : FirstAs text before mark after) : mark.utf8ByteSize = 4 := by
  rw [← utf8ByteSize_toLower, h.isAs]
  rfl

theorem FirstAs.increaseBy_eq {text before mark after : String}
    (h : FirstAs text before mark after) :
    before.rawEndPos.increaseBy 4 = (before ++ mark).rawEndPos := by
  rw [String.Pos.Raw.ext_iff, String.Pos.Raw.byteIdx_increaseBy, String.byteIdx_rawEndPos,
    String.byteIdx_rawEndPos, String.utf8ByteSize_append, h.utf8ByteSize_mark]

theorem cutAlias_of_places {text : String} {offset : String.Pos.Raw}
    (h : asOffset? text = some offset) {start stop : text.Pos}
    (hstart : placeAt text offset = .ok start)
    (hstop : placeAt text (offset.increaseBy 4) = .ok stop) :
    cutAlias text =
      .ok (some (trimmed (text.sliceTo start).copy, trimmed (text.sliceFrom stop).copy)) := by
  rw [cutAlias, h]
  simp only [hstart, hstop]
  rfl

/-- **Cutting at byte offsets always succeeds, and cuts like cutting by characters.** -/
theorem cutAlias_eq (text : String) : cutAlias text = .ok (splitAlias? text) := by
  by_cases hmentions : MentionsAs text
  · obtain ⟨before, mark, after, hfirst⟩ := exists_firstAs_iff.2 hmentions
    obtain ⟨start, hstart, hbefore⟩ :=
      placeAt_append (hfirst.eq_append.trans String.append_assoc)
    obtain ⟨stop, hstop, hafter⟩ := placeAt_append hfirst.eq_append
    rw [← hfirst.increaseBy_eq] at hstop
    rw [cutAlias_of_places hfirst.asOffset?_eq hstart hstop, hbefore.copy_sliceTo_eq,
      hafter.copy_sliceFrom_eq, hfirst.splitAlias?_eq]
  · rw [cutAlias, asOffset?_eq_none_iff.2 hmentions, splitAlias?_eq_none_iff.2 hmentions]
    rfl

/-! ## Parts are shorter -/

theorem utf8ByteSize_trimmed_le (text : String) :
    (trimmed text).utf8ByteSize ≤ text.utf8ByteSize := by
  obtain ⟨front, back, htext⟩ := isInfix_trim text.toList
  have hparts : text = .ofList front ++ trimmed text ++ .ofList back := by
    rw [trimmed, ← String.ofList_append, ← String.ofList_append, htext, String.ofList_toList]
  have hsize := congrArg String.utf8ByteSize hparts
  rw [String.utf8ByteSize_append, String.utf8ByteSize_append] at hsize
  omega

theorem FirstAs.utf8ByteSize_lt {text before mark after : String}
    (h : FirstAs text before mark after) :
    (trimmed before).utf8ByteSize < text.utf8ByteSize ∧
      (trimmed after).utf8ByteSize < text.utf8ByteSize := by
  have hbefore := utf8ByteSize_trimmed_le before
  have hafter := utf8ByteSize_trimmed_le after
  rw [h.eq_append, String.utf8ByteSize_append, String.utf8ByteSize_append, h.utf8ByteSize_mark]
  omega

/-! ## The last dot -/

/-- What stands before and behind the last dot. -/
def cutLastDotChars? : List Char → Option (List Char × List Char)
  | [] => none
  | c :: cs =>
    match cutLastDotChars? cs with
    | some (owner, column) => some (c :: owner, column)
    | none => if c = '.' then some ([], cs) else none

/-- The owner of a column and the column: what stands before and behind the last dot. -/
def cutLastDot? (name : String) : Option (String × String) :=
  (cutLastDotChars? name.toList).map fun (owner, column) =>
    (String.ofList owner, String.ofList column)

theorem cutLastDotChars?_eq_none_iff {text : List Char} :
    cutLastDotChars? text = none ↔ '.' ∉ text := by
  induction text with
  | nil => simp [cutLastDotChars?]
  | cons c cs ih =>
    rw [cutLastDotChars?]
    cases hcut : cutLastDotChars? cs with
    | none => simp [ih.1 hcut, eq_comm]
    | some parts =>
      have hdot : '.' ∈ cs := Classical.not_not.1 fun hnot => by
        rw [ih.2 hnot] at hcut
        cases hcut
      simp [hdot]

theorem eq_append_of_cutLastDotChars? {text owner column : List Char}
    (h : cutLastDotChars? text = some (owner, column)) :
    text = owner ++ '.' :: column ∧ '.' ∉ column := by
  induction text generalizing owner with
  | nil => cases h
  | cons c cs ih =>
    rw [cutLastDotChars?] at h
    split at h
    · next owner' column' hcut =>
      cases h
      obtain ⟨htext, hcolumn⟩ := ih hcut
      exact ⟨congrArg (c :: ·) htext, hcolumn⟩
    · next hcut =>
      split at h
      · next hdot =>
        cases h
        exact ⟨congrArg (· :: _) hdot, cutLastDotChars?_eq_none_iff.1 hcut⟩
      · cases h

theorem eq_append_of_cutLastDot? {name owner column : String}
    (h : cutLastDot? name = some (owner, column)) :
    name = owner ++ "." ++ column ∧ '.' ∉ column.toList := by
  obtain ⟨⟨owner', column'⟩, hcut, heq⟩ := Option.map_eq_some_iff.1 h
  cases heq
  obtain ⟨htext, hcolumn⟩ := eq_append_of_cutLastDotChars? hcut
  refine ⟨?_, by rwa [String.toList_ofList]⟩
  rw [← String.toList_inj, htext]
  simp

end Identifier

/-! ## Writing by calls on the parts -/

namespace Spelling

open Identifier

variable (s : Spelling)

/-- A table name, written by calls on its parts, at most so many within one another. -/
def writeTable : Nat → String → Except Obstacle String
  | 0, _ => .error .tooDeep
  | depth + 1, name => do
    match ← cutAlias name with
    | some (table, byname) =>
      let table ← writeTable depth table
      let byname ← writeTable depth byname
      return table ++ " as " ++ byname
    | none => return s.tablePath name

/-- A column name, written by calls on its parts, at most so many within one another. -/
def writeName : Nat → String → Except Obstacle String
  | 0, _ => .error .tooDeep
  | depth + 1, name => do
    match ← cutAlias name with
    | some (column, byname) =>
      let column ← writeName depth column
      return column ++ " as " ++ s.quote byname
    | none =>
      match cutLastDot? name with
      | some (owner, column) =>
        let owner ← s.writeTable depth owner
        return owner ++ "." ++ s.quote column
      | none => return s.quote name

/-- **Writing a table ends**: as many calls within one another as its name is long, and one more,
are enough. -/
theorem writeTable_eq {depth : Nat} {name : String} (h : name.length < depth) :
    s.writeTable depth name = .ok (s.table name) := by
  induction depth generalizing name with
  | zero => exact absurd h (Nat.not_lt_zero _)
  | succ depth ih =>
    cases hsplit : splitAlias? name with
    | none =>
      rw [writeTable, cutAlias_eq, hsplit,
        s.table_of_not_mentionsAs (splitAlias?_eq_none_iff.1 hsplit)]
      rfl
    | some parts =>
      obtain ⟨table, byname⟩ := parts
      obtain ⟨htable, hbyname⟩ := length_of_splitAlias? hsplit
      have hplain : s.table table = s.tablePath table :=
        s.table_of_not_mentionsAs (splitAlias?_eq_none_iff.1 (splitAlias?_of_splitAlias? hsplit))
      have hfirst : s.writeTable depth table = .ok (s.table table) := ih (by omega)
      have hsecond : s.writeTable depth byname = .ok (s.table byname) := ih (by omega)
      rw [writeTable, cutAlias_eq, hsplit, s.table_of_splitAlias? hsplit, ← hplain]
      simp only [bind, Except.bind, pure, Except.pure, hfirst, hsecond]

theorem columnPath_of_dot_not_mem {name : String} (h : '.' ∉ name.toList) :
    s.columnPath name = s.quote name := by
  have hsegments : segments name = [name] := by
    rw [segments_eq, dotSplit, List.splitOn_eq_singleton h, List.map_singleton,
      String.ofList_toList]
  rw [columnPath, path, hsegments]
  exact String.intercalate_singleton

/-- **Writing a column ends**: as many calls within one another as its name is long, and one more,
are enough. -/
theorem writeName_eq {depth : Nat} {name : String} (h : name.length < depth) :
    s.writeName depth name = .ok (s.columnName name) := by
  induction depth generalizing name with
  | zero => exact absurd h (Nat.not_lt_zero _)
  | succ depth ih =>
    cases hsplit : splitAlias? name with
    | some parts =>
      obtain ⟨column, byname⟩ := parts
      obtain ⟨hcolumn, -⟩ := length_of_splitAlias? hsplit
      have hplain : s.columnName column = s.columnPath column := by
        rw [columnName, splitAlias?_of_splitAlias? hsplit]
      have hwritten : s.writeName depth column = .ok (s.columnName column) := ih (by omega)
      rw [writeName, cutAlias_eq, columnName, hsplit]
      simp only [bind, Except.bind, pure, Except.pure, hwritten, hplain]
    | none =>
      rw [writeName, cutAlias_eq, hsplit]
      cases hdot : cutLastDot? name with
      | none =>
        have hnot : '.' ∉ name.toList :=
          cutLastDotChars?_eq_none_iff.1 (Option.map_eq_none_iff.1 hdot)
        rw [columnName, hsplit, s.columnPath_of_dot_not_mem hnot]
        rfl
      | some parts =>
        obtain ⟨owner, column⟩ := parts
        obtain ⟨rfl, hcolumn⟩ := eq_append_of_cutLastDot? hdot
        have hshorter : owner.length < depth := by
          simp only [String.length_append] at h
          have hone : ".".length = 1 := rfl
          omega
        have hwritten : s.writeTable depth owner = .ok (s.table owner) := s.writeTable_eq hshorter
        rw [s.columnName_append_dot hcolumn (splitAlias?_eq_none_iff.1 hsplit)]
        simp only [bind, Except.bind, pure, Except.pure, hwritten]

end Spelling

namespace Identifier

open Text

/-- **A name is cut at its first ` as `, whatever characters it has.** It has an alias exactly if it
mentions ` as `. The search in its copy in lower case then finds the offset of the first one, which
is one between characters, and so is the offset four bytes on; name and alias are the trimmed texts
around it, the name has no ` as ` of its own, and both are shorter than the text. So cutting at
offsets always succeeds, and writing a name by calls on its parts ends. -/
theorem cut_at_first_as (text : String) :
    (splitAlias? text = none ↔ ¬ MentionsAs text) ∧
    (asOffset? text = none ↔ ¬ MentionsAs text) ∧
    (MentionsAs text ↔ ∃ before mark after, FirstAs text before mark after) ∧
    (∀ before mark after : String, FirstAs text before mark after →
      asOffset? text = some before.rawEndPos ∧
      before.rawEndPos.IsValid text ∧ (before.rawEndPos.increaseBy 4).IsValid text ∧
      splitAlias? text = some (trimmed before, trimmed after) ∧
      ¬ MentionsAs (trimmed before) ∧
      ∀ part ∈ [trimmed before, trimmed after],
        part.length < text.length ∧ part.utf8ByteSize < text.utf8ByteSize) ∧
    cutAlias text = .ok (splitAlias? text) ∧
    ∀ (s : Spelling) (depth : Nat), text.length < depth →
      s.writeName depth text = .ok (s.columnName text) ∧
      s.writeTable depth text = .ok (s.table text) := by
  refine ⟨splitAlias?_eq_none_iff, asOffset?_eq_none_iff, exists_firstAs_iff.symm, ?_,
    cutAlias_eq text, fun s depth h => ⟨s.writeName_eq h, s.writeTable_eq h⟩⟩
  intro before mark after h
  have hname : ¬ MentionsAs (trimmed before) :=
    splitAlias?_eq_none_iff.1 (splitAlias?_of_splitAlias? h.splitAlias?_eq)
  obtain ⟨hbefore, hafter⟩ := length_of_splitAlias? h.splitAlias?_eq
  obtain ⟨hbeforeSize, hafterSize⟩ := h.utf8ByteSize_lt
  refine ⟨h.asOffset?_eq, ?_, ?_, h.splitAlias?_eq, hname, ?_⟩
  · exact String.Pos.Raw.isValid_iff_exists_append.2
      ⟨before, mark ++ after, h.eq_append.trans String.append_assoc, rfl⟩
  · exact String.Pos.Raw.isValid_iff_exists_append.2
      ⟨before ++ mark, after, h.eq_append, h.increaseBy_eq⟩
  · simp [hbefore, hafter, hbeforeSize, hafterSize]

/-- A name of characters of several sizes, with blanks that are not ASCII and with ` as ` twice, the
second time overlapping with itself. -/
def wideName : String := "日本.größe As \u3000x as as ÿ\u2003"

theorem cut_at_first_as_wideName :
    FirstAs wideName "日本.größe" " As " "\u3000x as as ÿ\u2003" ∧
    asOffset? wideName = some ⟨14⟩ ∧
    splitAlias? wideName = some ("日本.größe", "x as as ÿ") ∧
    "日本.größe".utf8ByteSize < wideName.utf8ByteSize ∧
    cutAlias wideName = .ok (some ("日本.größe", "x as as ÿ")) ∧
    wideName.length < 40 ∧
    (Spelling.standard "p_").writeName 40 wideName =
      .ok "\"p_日本\".\"größe\" as \"x as as ÿ\"" ∧
    (Spelling.standard "p_").writeTable 40 wideName =
      .ok "\"日本\".\"p_größe\" as \"p_x\" as \"p_as ÿ\"" := by
  have hfirst : FirstAs wideName "日本.größe" " As " "\u3000x as as ÿ\u2003" :=
    .of_cutAs? rfl (toLower_eq_as_iff.2 (by decide)) (by decide +kernel)
  have hdepth : wideName.length < 40 := by decide
  obtain ⟨-, -, -, hparts, hcut, hwritten⟩ := cut_at_first_as wideName
  obtain ⟨hoffset, -, -, hsplit, -, hshorter⟩ := hparts _ _ _ hfirst
  have hname : trimmed "日本.größe" = "日本.größe" := by decide +kernel
  have hbyname : trimmed "\u3000x as as ÿ\u2003" = "x as as ÿ" := by decide +kernel
  rw [hname, hbyname] at hsplit
  rw [hsplit] at hcut
  rw [hname] at hshorter
  obtain ⟨hcolumn, htable⟩ := hwritten (.standard "p_") 40 hdepth
  exact ⟨hfirst, hoffset, hsplit, (hshorter _ List.mem_cons_self).2, hcut, hdepth,
    hcolumn.trans (congrArg _ (by decide +kernel)), htable.trans (congrArg _ (by decide +kernel))⟩

end Identifier

end SqlDialect
