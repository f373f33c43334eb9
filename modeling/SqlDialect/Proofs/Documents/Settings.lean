import SqlDialect.Proofs.Documents.Reading

/-!
# Settings in documents

Which documents hold settings, and which settings they hold. An object is read member by member
(`Settings.Fills`), and however it is written, it is read if and only if its members are different
fields with values that the fields may have; they may stand in any order, and a field that is
missing has its default (`Settings.read_object_iff`). Settings are written as such an object, and
are read back from it (`Settings.read_write`).
-/

namespace SqlDialect.Db2

open Json

/-! ## Names of fields -/

theorem Field.ofName?_eq_some_iff {text : String} {f : Field} :
    ofName? text = some f ↔ text = f.name := by
  constructor
  · intro h
    have hname := List.find?_some h
    exact (of_decide_eq_true hname).symm
  · rintro rfl
    cases f <;> rfl

theorem Field.name_injective {f g : Field} (h : f.name = g.name) : f = g := by
  have hf := Field.ofName?_eq_some_iff.2 (rfl : f.name = f.name)
  rw [h, Field.ofName?_eq_some_iff.2 rfl] at hf
  exact (Option.some.inj hf).symm

namespace Settings

/-! ## Members -/

variable {blanks text rest after : List Char} {seen : List Field} {s s' : Settings}

/-- What stands before a member: a comma, but before the first one. -/
def lead (first : Bool) : List Char := if first then [] else [',']

theorem nextMember_lead {first : Bool} {before : List Char} (hblanks : Blanks blanks)
    (hbefore : Blanks before) :
    nextMember first (blanks ++ (lead first ++ (before ++ '"' :: rest))) = .ok (true, rest) := by
  have hquote := skipBlanks_append_cons hbefore (c := '"') rfl rest
  cases first with
  | true => simp [nextMember, lead, skipBlanks_append hblanks, hquote]
  | false =>
    have hcomma := skipBlanks_append_cons hblanks (c := ',') rfl (before ++ '"' :: rest)
    simp [nextMember, lead, hcomma, hquote]

theorem nextMember_end {first : Bool} (hblanks : Blanks blanks) :
    nextMember first (blanks ++ '\x7d' :: rest) = .ok (false, rest) := by
  rw [nextMember, skipBlanks_append_cons hblanks rfl]
  rfl

theorem colon_eq (hblanks : Blanks blanks) : colon (blanks ++ ':' :: rest) = .ok rest := by
  rw [colon, skipBlanks_append_cons hblanks rfl]
  rfl

theorem memberField_eq_ok_iff {name? : Option String} (h : IsString name? ('"' :: text))
    (hblanks : Blanks blanks) {f : Field} :
    memberField seen (text ++ (blanks ++ ':' :: rest)) = .ok (f, after) ↔
      name? = some f.name ∧ f ∉ seen ∧ after = rest := by
  have hname (name : String) (rest' : List Char) :
      ofText (string (text ++ (blanks ++ ':' :: rest))) = .ok (name, rest') ↔
        name? = some name ∧ rest' = blanks ++ ':' :: rest := by
    rw [ofText_eq_ok_iff]
    exact string_eq_ok_iff_of_isString h
  rw [memberField, bind_eq_ok_iff]
  constructor
  · rintro ⟨⟨name, rest'⟩, hread, hfield⟩
    obtain ⟨rfl, rfl⟩ := (hname name rest').1 hread
    simp only at hfield
    split at hfield
    · cases hfield
    · next g hg =>
      obtain rfl := Field.ofName?_eq_some_iff.1 hg
      split at hfield
      · cases hfield
      · next hseen =>
        rw [colon_eq hblanks] at hfield
        obtain ⟨rfl, rfl⟩ := Prod.mk.inj (Except.ok.inj hfield)
        exact ⟨rfl, hseen, rfl⟩
  · rintro ⟨rfl, hseen, rfl⟩
    refine ⟨(f.name, _), (hname _ _).2 ⟨rfl, rfl⟩, ?_⟩
    simp only [Field.ofName?_eq_some_iff.2 (rfl : f.name = f.name), if_neg hseen,
      colon_eq hblanks]
    rfl

/-- What reading a member does: its name has to be that of a field that was not read yet, which is
given its value. The blanks behind the value are left to what follows. -/
theorem readMembers_succ_iff {m : Option String × Document} (h : IsMember IsValue m text) :
    ∃ trailing, Blanks trailing ∧ ∀ {fuel : Nat} {seen : List Field} {s s' : Settings}
      {blanks tail after : List Char}, Blanks blanks →
      (readMembers (fuel + 1) seen s (blanks ++ (lead seen.isEmpty ++ (text ++ tail))) =
          .ok (s', after) ↔
        ∃ f next, m.1 = some f.name ∧ f ∉ seen ∧ s.Sets f m.2 next ∧
          readMembers fuel (f :: seen) next (trailing ++ tail) = .ok (s', after)) := by
  obtain @⟨name?, v, _, _, ⟨hbefore, hname, hbehind⟩, ⟨hspace, hvalue, htrailing⟩⟩ := h
  obtain ⟨nameText, rfl⟩ := hname.exists_cons
  refine ⟨_, htrailing, fun hblanks => ?_⟩
  simp only [List.append_assoc, List.cons_append, readMembers, nextMember_lead hblanks hbefore]
  constructor
  · intro hread
    obtain ⟨_, hmore, hread⟩ := bind_eq_ok_iff.1 hread
    cases hmore
    obtain ⟨⟨f, _⟩, hmember, hread⟩ := bind_eq_ok_iff.1 hread
    obtain ⟨hf, hseen, rfl⟩ := (memberField_eq_ok_iff hname hbehind).1 hmember
    obtain ⟨⟨next, _⟩, hfield, hrest⟩ := bind_eq_ok_iff.1 hread
    obtain ⟨hsets, rfl⟩ := (readField_eq_ok_iff hspace hvalue).1 hfield
    exact ⟨f, next, hf, hseen, hsets, hrest⟩
  · rintro ⟨f, next, hf, hseen, hsets, hrest⟩
    refine bind_eq_ok_iff.2 ⟨_, rfl, bind_eq_ok_iff.2
      ⟨_, (memberField_eq_ok_iff hname hbehind).2 ⟨hf, hseen, rfl⟩, ?_⟩⟩
    exact bind_eq_ok_iff.2 ⟨_, (readField_eq_ok_iff hspace hvalue).2 ⟨hsets, rfl⟩, hrest⟩

theorem readMembers_end (hblanks : Blanks blanks) {fuel : Nat} (hfuel : 0 < fuel) :
    readMembers fuel seen s (blanks ++ '\x7d' :: rest) = .ok (s, rest) := by
  obtain ⟨fuel, rfl⟩ := Nat.exists_eq_add_one_of_ne_zero (Nat.ne_of_gt hfuel)
  simp only [readMembers, nextMember_end hblanks]
  rfl

/-! ## Objects -/

/-- How members fill settings one after another: each is a field that was not there before. -/
def Fills : List Field → Settings → List (Option String × Document) → Settings → Prop
  | _, s, [], s' => s = s'
  | seen, s, m :: members, s' =>
    ∃ f next, m.1 = some f.name ∧ f ∉ seen ∧ s.Sets f m.2 next ∧ Fills (f :: seen) next members s'

variable {members : List (Option String × Document)}

theorem readMembers_eq_ok_iff (h : Separated (IsMember IsValue) members text) {fuel : Nat}
    (hfuel : members.length < fuel) (hblanks : Blanks blanks) :
    readMembers fuel seen s (blanks ++ (lead seen.isEmpty ++ (text ++ '\x7d' :: rest))) =
        .ok (s', after) ↔
      Fills seen s members s' ∧ after = rest := by
  -- The blanks behind a member are the ones that stand before the next comma or the end.
  induction h generalizing fuel seen s blanks with
  | single h =>
    obtain ⟨trailing, htrailing, hstep⟩ := readMembers_succ_iff h
    obtain ⟨fuel, rfl⟩ := Nat.exists_eq_add_one_of_ne_zero (Nat.ne_zero_of_lt hfuel)
    have hrest (f : Field) (next : Settings) :
        readMembers fuel (f :: seen) next (trailing ++ '\x7d' :: rest) = .ok (s', after) ↔
          next = s' ∧ after = rest := by
      rw [readMembers_end htrailing (Nat.lt_of_succ_lt_succ hfuel)]
      simp [eq_comm]
    simp only [hstep hblanks, hrest, Fills, ← and_assoc, exists_and_right]
  | @cons m members text tail h hs ih =>
    obtain ⟨trailing, htrailing, hstep⟩ := readMembers_succ_iff h
    obtain ⟨fuel, rfl⟩ := Nat.exists_eq_add_one_of_ne_zero (Nat.ne_zero_of_lt hfuel)
    have hrest (f : Field) (next : Settings) :
        readMembers fuel (f :: seen) next (trailing ++ ',' :: (tail ++ '\x7d' :: rest)) =
            .ok (s', after) ↔
          Fills (f :: seen) next members s' ∧ after = rest :=
      ih (Nat.lt_of_succ_lt_succ hfuel) htrailing
    rw [List.append_assoc, List.cons_append]
    simp only [hstep hblanks, hrest, Fills, ← and_assoc, exists_and_right]

theorem Fills.name_not_mem (h : Fills seen s members s') {f : Field} (hf : f ∈ seen) :
    some f.name ∉ members.map Prod.fst := by
  induction members generalizing seen s with
  | nil => simp
  | cons m members ih =>
    obtain ⟨g, next, hg, hseen, -, hrest⟩ := h
    rw [List.map_cons, List.mem_cons, not_or]
    refine ⟨?_, ih hrest (List.mem_cons_of_mem g hf)⟩
    rw [hg]
    intro hname
    obtain rfl := Field.name_injective (Option.some.inj hname)
    exact hseen hf

/-- **What the members of an object fill**: each field that has a member has its value, and the
others are as before. -/
theorem Fills.member_eq (h : Fills seen s members s') :
    (∀ f v, (some f.name, v) ∈ members → s'.member f = v) ∧
      ∀ f, some f.name ∉ members.map Prod.fst → s'.member f = s.member f := by
  induction members generalizing seen s with
  | nil =>
    obtain rfl : s = s' := h
    simp
  | cons m members ih =>
    obtain ⟨f, next, hf, -, hsets, hrest⟩ := h
    obtain ⟨hgiven, hmissing⟩ := ih hrest
    have hlater := hrest.name_not_mem List.mem_cons_self
    constructor
    · intro g v hm
      obtain rfl | hm := List.mem_cons.1 hm
      · obtain rfl := Field.name_injective (Option.some.inj hf)
        rw [hmissing g hlater, hsets.here]
      · exact hgiven g v hm
    · intro g hg
      rw [List.map_cons, List.mem_cons, not_or] at hg
      have hne : g ≠ f := by
        rintro rfl
        exact hg.1 hf.symm
      rw [hmissing g hg.2, hsets.elsewhere g hne]

/-- **Which members fill settings**: those of different fields that were not there before, with
values that the fields may have. -/
theorem exists_fills_iff :
    (∃ s', Fills seen s members s') ↔
      (∀ m ∈ members, ∃ f : Field, m.1 = some f.name ∧ f ∉ seen ∧ f.Takes m.2) ∧
        (members.map Prod.fst).Nodup := by
  induction members generalizing seen s with
  | nil => simp [Fills]
  | cons m members ih =>
    rw [List.map_cons, List.nodup_cons, List.forall_mem_cons]
    constructor
    · rintro ⟨s', f, next, hf, hseen, hsets, hrest⟩
      obtain ⟨hfields, hdistinct⟩ := ih.1 ⟨s', hrest⟩
      refine ⟨⟨⟨f, hf, hseen, takes_iff_exists_member.2 ⟨next, hsets.here⟩⟩, ?_⟩,
        hf ▸ hrest.name_not_mem List.mem_cons_self, hdistinct⟩
      intro m' hm'
      obtain ⟨g, hg, hgseen, htakes⟩ := hfields m' hm'
      exact ⟨g, hg, fun h => hgseen (List.mem_cons_of_mem f h), htakes⟩
    · rintro ⟨⟨⟨f, hf, hseen, htakes⟩, hfields⟩, hlater, hdistinct⟩
      obtain ⟨given, hgiven⟩ := takes_iff_exists_member.1 htakes
      have hrest : ∃ s', Fills (f :: seen) (s.withField f given) members s' := by
        refine ih.2 ⟨fun m' hm' => ?_, hdistinct⟩
        obtain ⟨g, hg, hgseen, htakes⟩ := hfields m' hm'
        refine ⟨g, hg, ?_, htakes⟩
        rw [List.mem_cons, not_or]
        refine ⟨?_, hgseen⟩
        rintro rfl
        exact hlater (List.mem_map.2 ⟨m', hm', hg.trans hf.symm⟩)
      obtain ⟨s', hs'⟩ := hrest
      exact ⟨s', f, _, hf, hseen, hgiven ▸ s.sets_withField f given, hs'⟩

/-! ## Documents -/

theorem length_le_of_separated (h : Separated (IsMember IsValue) members text) :
    members.length ≤ text.length := by
  have hone {m : Option String × Document} {text : List Char} (h : IsMember IsValue m text) :
      1 ≤ text.length := by
    cases h
    simp only [List.length_append, List.length_cons]
    omega
  induction h with
  | single h => exact hone h
  | cons h hs ih =>
    have := hone h
    simp only [List.length_cons, List.length_append]
    omega

theorem readTop_eq_ok_iff (h : IsValue (.object members) text) (hblanks : Blanks blanks) :
    readTop (blanks ++ (text ++ rest)) = .ok (s, after) ↔ Fills [] {} members s ∧ after = rest := by
  cases h with
  | emptyObject hspace =>
    rw [List.cons_append, readTop, skipBlanks_append_cons hblanks rfl, List.append_assoc]
    simp only [List.singleton_append, readMembers_end hspace (Nat.succ_pos _), Fills]
    simp [eq_comm]
  | @object _ text h =>
    rw [List.cons_append, readTop, skipBlanks_append_cons hblanks rfl, List.append_assoc]
    refine readMembers_eq_ok_iff h ?_ Blanks.nil
    have hlength := length_le_of_separated h
    rw [List.length_append]
    omega

theorem read_eq_ok_iff {document : String} (h : IsDocument (.object members) document.toList) :
    read document = .ok s ↔ Fills [] {} members s := by
  rw [read]
  generalize document.toList = chars at h
  obtain @⟨before, text, after, _, hbefore, h, hafter⟩ := h
  rw [List.append_assoc, bind_eq_ok_iff]
  constructor
  · rintro ⟨⟨s', rest⟩, htop, hend⟩
    obtain ⟨hfills, rfl⟩ := (readTop_eq_ok_iff h hbefore).1 htop
    simp only [skipBlanks_of_blanks hafter] at hend
    obtain rfl := Except.ok.inj hend
    exact hfills
  · intro hfills
    refine ⟨(s, after), (readTop_eq_ok_iff h hbefore).2 ⟨hfills, rfl⟩, ?_⟩
    simp only [skipBlanks_of_blanks hafter]
    rfl

/-- **Which objects hold settings.** However an object is written, it is read if and only if each
of its members is a field with a value that the field may have, and no name occurs twice. The
settings have the given value for each field with a member, whatever the order of the members, and
the default for each field without one. -/
theorem read_object_iff {members : List (Option String × Document)} {document : String}
    (h : IsDocument (.object members) document.toList) :
    ((∃ s, read document = .ok s) ↔
      (∀ m ∈ members, ∃ f : Field, m.1 = some f.name ∧ f.Takes m.2) ∧
        (members.map Prod.fst).Nodup) ∧
    ∀ s, read document = .ok s →
      (∀ f v, (some f.name, v) ∈ members → s.member f = v) ∧
        ∀ f, some f.name ∉ members.map Prod.fst → s.member f = ({} : Settings).member f := by
  simp only [read_eq_ok_iff h]
  refine ⟨?_, fun s hs => hs.member_eq⟩
  rw [exists_fills_iff]
  simp

/-- Two members, not in the order in which they are written. -/
def looseMembers : List (Option String × Document) :=
  [(some "table_prefix", .string (some "app")), (some "date_format", .null)]

/-- A document with these members, blanks between them, and a name in another spelling. -/
def looseDocument : String := "\x7b\"\\u0074able_prefix\": \"app\",\n\"date_format\" :null\x7d"

theorem isDocument_looseDocument : IsDocument (.object looseMembers) looseDocument.toList := by
  have hcode : WrittenPiece (.unit 0x74) ['\\', 'u', '0', '0', '7', '4'] :=
    .code (isHexDigit_hexDigit 0) (isHexDigit_hexDigit 0) (isHexDigit_hexDigit 7)
      (isHexDigit_hexDigit 4)
  obtain ⟨pieces, hpieces, htext⟩ := exists_writtenPieces "able_prefix".toList
  have hname := IsString.intro (.cons hcode hpieces)
  rw [textOf?_unit (by decide) (by decide), htext] at hname
  have hblank : Blanks [' '] := by simp [Blanks]
  have hline : Blanks ['\n'] := by simp [Blanks]
  have hprefix : IsMember IsValue (some "table_prefix", .string (some "app")) _ :=
    .intro (Padded.of_part hname) (.intro hblank (.string (isString_written "app")) Blanks.nil)
  have hformat : IsMember IsValue (some "date_format", .null) _ :=
    .intro (.intro hline (isString_written "date_format") hblank) (Padded.of_part .null)
  exact Padded.of_part (.object (.cons hprefix (.single hformat)))

theorem read_object_iff_looseDocument :
    IsDocument (.object looseMembers) looseDocument.toList ∧
      ∃ s, read looseDocument = .ok s ∧ s.member .tablePrefix = .string (some "app") ∧
        s.member .quoteNames = .bool true := by
  have hdocument := isDocument_looseDocument
  obtain ⟨haccepts, hholds⟩ := read_object_iff hdocument
  have hfields : ∀ m ∈ looseMembers, ∃ f : Field, m.1 = some f.name ∧ f.Takes m.2 := by
    simp only [looseMembers, List.forall_mem_cons]
    exact ⟨⟨.tablePrefix, rfl, "app", rfl⟩, ⟨.dateFormat, rfl, .inl rfl⟩, by simp⟩
  obtain ⟨s, hs⟩ := haccepts.2 ⟨hfields, by decide⟩
  obtain ⟨hgiven, hmissing⟩ := hholds s hs
  exact ⟨hdocument, s, hs, hgiven .tablePrefix _ List.mem_cons_self,
    hmissing .quoteNames (by decide)⟩

/-! ## Written documents -/

theorem isValue_writtenField (s : Settings) (f : Field) :
    IsValue (s.member f) (s.writtenField f).toList := by
  have hoption (o : Option String) : IsValue (.ofOption o) (writtenOption o).toList := by
    cases o with
    | none => exact .null
    | some t => exact .string (isString_written t)
  have hbool (b : Bool) : IsValue (.bool b) (writtenBool b).toList := by
    cases b with
    | true => exact .true
    | false => exact .false
  cases f with
  | dateFormat => exact hoption s.dateFormat
  | offsetCompatibility => exact hbool s.offsetCompatibility
  | quoteNames => exact hbool s.quoteNames
  | tablePrefix => exact .string (isString_written s.tablePrefix)
  | castPattern => exact hoption s.castPattern

/-- Settings are written as an object with one member for each field. -/
theorem isDocument_write (s : Settings) :
    IsDocument (.object (Field.all.map fun f => (some f.name, s.member f))) s.write.toList := by
  have hmember (f : Field) : IsMember IsValue (some f.name, s.member f)
      (written f.name ++ ":" ++ s.writtenField f).toList := by
    simp only [String.toList_append, List.append_assoc]
    exact .intro (Padded.of_part (isString_written f.name))
      (Padded.of_part (s.isValue_writtenField f))
  have hall : Field.all ≠ [] := List.cons_ne_nil _ _
  have hmembers := separated_intercalate hall fun f _ => hmember f
  have htext : s.write.toList = '\x7b' :: ((",".intercalate (Field.all.map fun f =>
      written f.name ++ ":" ++ s.writtenField f)).toList ++ ['\x7d']) := by
    have hopen : "\x7b".toList = ['\x7b'] := rfl
    have hclose : "\x7d".toList = ['\x7d'] := rfl
    rw [write, String.toList_append, String.toList_append, hopen, hclose, List.append_assoc,
      List.singleton_append]
  rw [htext]
  exact Padded.of_part (.object hmembers)

/-- **Written settings are read back.** They are written as an object with the value of each field
in order, and this object holds them. -/
theorem read_write (s : Settings) :
    IsDocument (.object (Field.all.map fun f => (some f.name, s.member f))) s.write.toList ∧
      read s.write = .ok s := by
  refine ⟨s.isDocument_write, ?_⟩
  rw [read_eq_ok_iff s.isDocument_write]
  have haccepted : ∃ s', Fills [] {} (Field.all.map fun f => (some f.name, s.member f)) s' := by
    refine exists_fills_iff.2 ⟨?_, ?_⟩
    · intro m hm
      obtain ⟨f, -, rfl⟩ := List.mem_map.1 hm
      exact ⟨f, rfl, List.not_mem_nil, takes_iff_exists_member.2 ⟨s, rfl⟩⟩
    · rw [List.map_map]
      exact (by decide : (Field.all.map fun f => some f.name).Nodup)
  obtain ⟨s', hs'⟩ := haccepted
  have heq : s' = s := by
    refine ext_member fun f => hs'.member_eq.1 f (s.member f) (List.mem_map.2 ⟨f, ?_, rfl⟩)
    cases f <;> decide
  exact heq ▸ hs'

end Settings

end SqlDialect.Db2
