import SqlDialect.Db2.Settings.Document
import SqlDialect.Proofs.Documents.Grammar

/-!
# Reading the values of settings

What the readers of settings make of a value that is written by the grammar of documents. Each
lemma says when a reader gives a result and which one, for any blanks before the value and any text
behind it: `Settings.readField_eq_ok_iff` puts them together for the fields. The first character of
a value tells its kind, so that a value of another kind is refused whatever is in it.
-/

namespace SqlDialect

/-! ## Readers one after another -/

theorem bind_eq_ok_iff {ε α β : Type} {x : Except ε α} {f : α → Except ε β} {b : β} :
    (x >>= f) = .ok b ↔ ∃ a, x = .ok a ∧ f a = .ok b := by
  cases x <;> simp [bind, Except.bind]

theorem map_eq_ok_iff {ε α β : Type} {x : Except ε α} {f : α → β} {b : β} :
    x.map f = .ok b ↔ ∃ a, x = .ok a ∧ f a = b := by
  cases x <;> simp [Except.map]

namespace Json

/-! ## Tokens -/

theorem skipBlanks_append {blanks : List Char} (h : Blanks blanks) (text : List Char) :
    skipBlanks (blanks ++ text) = skipBlanks text := by
  refine List.dropWhile_append_of_pos fun c hc => ?_
  obtain rfl | rfl | rfl | rfl := h c hc <;> rfl

theorem skipBlanks_of_blanks {blanks : List Char} (h : Blanks blanks) : skipBlanks blanks = [] := by
  rw [← List.append_nil blanks, skipBlanks_append h]
  rfl

theorem skipBlanks_append_cons {blanks : List Char} (h : Blanks blanks) {c : Char}
    (hc : isBlank c = false) (text : List Char) :
    skipBlanks (blanks ++ c :: text) = c :: text := by
  rw [skipBlanks_append h]
  exact List.dropWhile_cons_of_neg (by simp [hc])

theorem IsString.exists_cons {text? : Option String} {text : List Char} (h : IsString text? text) :
    ∃ rest, text = '"' :: rest := by
  cases h with
  | intro h => exact ⟨_, rfl⟩

theorem string_eq_ok_iff_of_isString {text? : Option String} {text : List Char}
    (h : IsString text? ('"' :: text)) {rest after : List Char} {s : String} :
    string (text ++ rest) = .ok (s, after) ↔ text? = some s ∧ after = rest := by
  generalize hall : '"' :: text = all at h
  cases h with
  | intro h =>
    obtain rfl := (List.cons.inj hall).2
    rw [List.append_assoc]
    exact string_eq_ok_iff h

/-! ## The first characters of values -/

namespace Document

/-- Whether a character can be the first of a value. -/
def StartsWith : Document → Char → Prop
  | .null, c => c = 'n'
  | .bool true, c => c = 't'
  | .bool false, c => c = 'f'
  | .number _, c => c = '-' ∨ c.isDigit
  | .string _, c => c = '"'
  | .array _, c => c = '['
  | .object _, c => c = '\x7b'

theorem startsWith_n_iff {v : Document} : v.StartsWith 'n' ↔ v = .null := by
  cases v with
  | bool b => cases b <;> simp [StartsWith]
  | _ => simp [StartsWith, Char.isDigit]

theorem startsWith_t_iff {v : Document} : v.StartsWith 't' ↔ v = .bool true := by
  cases v with
  | bool b => cases b <;> simp [StartsWith]
  | _ => simp [StartsWith, Char.isDigit]

theorem startsWith_f_iff {v : Document} : v.StartsWith 'f' ↔ v = .bool false := by
  cases v with
  | bool b => cases b <;> simp [StartsWith]
  | _ => simp [StartsWith, Char.isDigit]

theorem startsWith_quote_iff {v : Document} : v.StartsWith '"' ↔ ∃ text?, v = .string text? := by
  cases v with
  | bool b => cases b <;> simp [StartsWith]
  | _ => simp [StartsWith, Char.isDigit]

theorem StartsWith.isBlank_eq_false {v : Document} {c : Char} (h : v.StartsWith c) :
    isBlank c = false := by
  fun_cases StartsWith v c with
  | case4 =>
    obtain rfl | hdigit := h
    · rfl
    · simp only [isBlank, Bool.or_eq_false_iff, beq_eq_false_iff_ne]
      refine ⟨⟨⟨?_, ?_⟩, ?_⟩, ?_⟩ <;> (rintro rfl; exact absurd hdigit (by decide))
  | _ => cases h; rfl

/-- A text that may be missing, as a document. -/
def ofOption : Option String → Document
  | none => .null
  | some t => .string (some t)

theorem ofOption_injective {o o' : Option String} (h : ofOption o = ofOption o') : o = o' := by
  cases o <;> cases o' <;> simp_all [ofOption]

theorem ofOption_eq (o : Option String) :
    ofOption o = .null ∨ ∃ t, ofOption o = .string (some t) := by
  cases o with
  | none => exact .inl rfl
  | some t => exact .inr ⟨t, rfl⟩

end Document

theorem IsNumber.exists_cons {text : List Char} (h : IsNumber text) :
    ∃ c rest, text = c :: rest ∧ (c = '-' ∨ c.isDigit) := by
  cases h with
  | intro hsign hwhole _ _ =>
    obtain ⟨⟨hne, hdigits⟩, -⟩ := hwhole
    obtain ⟨c, cs, rfl⟩ := List.exists_cons_of_ne_nil hne
    obtain rfl | rfl := hsign
    · exact ⟨c, _, rfl, .inr (hdigits c List.mem_cons_self)⟩
    · exact ⟨'-', _, rfl, .inl rfl⟩

theorem IsValue.exists_cons {v : Document} {text : List Char} (h : IsValue v text) :
    ∃ c rest, text = c :: rest ∧ v.StartsWith c := by
  cases h with
  | number h => exact h.exists_cons
  | string h =>
    obtain ⟨rest, rfl⟩ := h.exists_cons
    exact ⟨_, _, rfl, rfl⟩
  | _ => exact ⟨_, _, rfl, rfl⟩

end Json

namespace Db2

open Json

variable {blanks text rest after : List Char} {v : Document}

namespace Settings

theorem ofText_eq_ok_iff {α : Type} {x : Except Json.Fault α} {a : α} :
    ofText x = .ok a ↔ x = .ok a := by
  cases x <;> simp [ofText]

theorem readString_eq_ok_iff (hblanks : Blanks blanks) (h : IsValue v text) {t : String} :
    readString (blanks ++ (text ++ rest)) = .ok (t, after) ↔
      v = .string (some t) ∧ after = rest := by
  obtain ⟨c, cs, rfl, hc⟩ := h.exists_cons
  rw [readString, List.cons_append, skipBlanks_append_cons hblanks hc.isBlank_eq_false]
  split
  · next heq =>
    obtain ⟨rfl, rfl⟩ := List.cons.inj heq
    obtain ⟨text?, rfl⟩ := Document.startsWith_quote_iff.1 hc
    cases h with
    | string h => rw [ofText_eq_ok_iff, string_eq_ok_iff_of_isString h, Document.string.injEq]
  · next hquote =>
    have hne : v ≠ .string (some t) := by
      rintro rfl
      obtain rfl : c = '"' := hc
      exact hquote _ rfl
    simp [hne]

theorem readOption_eq_ok_iff (hblanks : Blanks blanks) (h : IsValue v text) {o : Option String} :
    readOption (blanks ++ (text ++ rest)) = .ok (o, after) ↔ v = .ofOption o ∧ after = rest := by
  obtain ⟨c, cs, htext, hc⟩ := h.exists_cons
  rw [readOption, htext, List.cons_append, skipBlanks_append_cons hblanks hc.isBlank_eq_false]
  split
  · next heq =>
    obtain ⟨rfl, rfl⟩ := List.cons.inj heq
    obtain rfl := Document.startsWith_n_iff.1 hc
    cases h with
    | null =>
      obtain rfl := (List.cons.inj htext).2
      cases o <;> simp [ofText, word, Except.map, Document.ofOption, eq_comm]
  · next hnull =>
    -- The reader of strings looks for blanks again, and there are none left.
    have hread (t : String) (after : List Char) :
        readString (c :: (cs ++ rest)) = .ok (t, after) ↔ v = .string (some t) ∧ after = rest := by
      rw [← List.cons_append, ← htext]
      exact readString_eq_ok_iff Blanks.nil h
    rw [map_eq_ok_iff]
    constructor
    · rintro ⟨⟨t, rest'⟩, ht, heq⟩
      obtain ⟨rfl, rfl⟩ := Prod.mk.inj heq
      exact (hread t rest').1 ht
    · rintro ⟨rfl, rfl⟩
      cases o with
      | none =>
        obtain rfl : c = 'n' := hc
        exact absurd rfl (hnull _)
      | some t => exact ⟨(t, after), (hread t after).2 ⟨rfl, rfl⟩, rfl⟩

theorem readBool_eq_ok_iff (hblanks : Blanks blanks) (h : IsValue v text) {b : Bool} :
    readBool (blanks ++ (text ++ rest)) = .ok (b, after) ↔ v = .bool b ∧ after = rest := by
  obtain ⟨c, cs, htext, hc⟩ := h.exists_cons
  rw [readBool, htext, List.cons_append, skipBlanks_append_cons hblanks hc.isBlank_eq_false]
  split
  · next heq =>
    obtain ⟨rfl, rfl⟩ := List.cons.inj heq
    obtain rfl := Document.startsWith_t_iff.1 hc
    cases h with
    | true =>
      obtain rfl := (List.cons.inj htext).2
      simp [ofText, word, Except.map, eq_comm]
  · next heq =>
    obtain ⟨rfl, rfl⟩ := List.cons.inj heq
    obtain rfl := Document.startsWith_f_iff.1 hc
    cases h with
    | false =>
      obtain rfl := (List.cons.inj htext).2
      simp [ofText, word, Except.map, eq_comm]
  · next htrue hfalse =>
    have hne : v ≠ .bool b := by
      rintro rfl
      cases b
      · obtain rfl : c = 'f' := hc
        exact hfalse _ rfl
      · obtain rfl : c = 't' := hc
        exact htrue _ rfl
    simp [hne]

end Settings

/-! ## The values of fields -/

/-- The values that a field may have: a string or null, a truth value, or a string. -/
def Field.Takes : Field → Document → Prop
  | .dateFormat, v | .castPattern, v => v = .null ∨ ∃ t, v = .string (some t)
  | .offsetCompatibility, v | .quoteNames, v => ∃ b, v = .bool b
  | .tablePrefix, v => ∃ t, v = .string (some t)

namespace Settings

/-- The value of a field in a document with these settings. -/
def member (s : Settings) : Field → Document
  | .dateFormat => .ofOption s.dateFormat
  | .offsetCompatibility => .bool s.offsetCompatibility
  | .quoteNames => .bool s.quoteNames
  | .tablePrefix => .string (some s.tablePrefix)
  | .castPattern => .ofOption s.castPattern

/-- A field may have the values that it has in settings. -/
theorem takes_iff_exists_member {f : Field} {v : Document} :
    f.Takes v ↔ ∃ s : Settings, s.member f = v := by
  constructor
  · intro h
    cases f with
    | dateFormat =>
      obtain rfl | ⟨t, rfl⟩ := h
      · exact ⟨{ dateFormat := none }, rfl⟩
      · exact ⟨{ dateFormat := some t }, rfl⟩
    | offsetCompatibility =>
      obtain ⟨b, rfl⟩ := h
      exact ⟨{ offsetCompatibility := b }, rfl⟩
    | quoteNames =>
      obtain ⟨b, rfl⟩ := h
      exact ⟨{ quoteNames := b }, rfl⟩
    | tablePrefix =>
      obtain ⟨t, rfl⟩ := h
      exact ⟨{ tablePrefix := t }, rfl⟩
    | castPattern =>
      obtain rfl | ⟨t, rfl⟩ := h
      · exact ⟨{ castPattern := none }, rfl⟩
      · exact ⟨{ castPattern := some t }, rfl⟩
  · rintro ⟨s, rfl⟩
    cases f with
    | dateFormat => exact Document.ofOption_eq s.dateFormat
    | offsetCompatibility => exact ⟨_, rfl⟩
    | quoteNames => exact ⟨_, rfl⟩
    | tablePrefix => exact ⟨_, rfl⟩
    | castPattern => exact Document.ofOption_eq s.castPattern

theorem ext_member {s s' : Settings} (h : ∀ f, s.member f = s'.member f) : s = s' := by
  have hdate := Document.ofOption_injective (h .dateFormat)
  have hoffset := Document.bool.inj (h .offsetCompatibility)
  have hquote := Document.bool.inj (h .quoteNames)
  have hprefix := Option.some.inj (Document.string.inj (h .tablePrefix))
  have hpattern := Document.ofOption_injective (h .castPattern)
  cases s
  cases s'
  simp_all

/-- A field is given a value, and the other fields stay as they are. -/
structure Sets (s : Settings) (f : Field) (v : Document) (s' : Settings) : Prop where
  here : s'.member f = v
  elsewhere : ∀ g, g ≠ f → s'.member g = s.member g

/-- The settings with one field of others. -/
def withField (s : Settings) (f : Field) (given : Settings) : Settings :=
  match f with
  | .dateFormat => { s with dateFormat := given.dateFormat }
  | .offsetCompatibility => { s with offsetCompatibility := given.offsetCompatibility }
  | .quoteNames => { s with quoteNames := given.quoteNames }
  | .tablePrefix => { s with tablePrefix := given.tablePrefix }
  | .castPattern => { s with castPattern := given.castPattern }

theorem sets_withField (s : Settings) (f : Field) (given : Settings) :
    s.Sets f (given.member f) (s.withField f given) where
  here := by cases f <;> rfl
  elsewhere g hg := by
    cases f <;> cases g <;> first | rfl | exact absurd rfl hg

theorem Sets.eq {s s' s'' : Settings} {f : Field} {v : Document} (h : s.Sets f v s')
    (h' : s.Sets f v s'') : s' = s'' := by
  refine ext_member fun g => ?_
  by_cases hg : g = f
  · rw [hg, h.here, h'.here]
  · rw [h.elsewhere g hg, h'.elsewhere g hg]

/-- A reader of values that are documents of one kind reads the field that has this kind. -/
theorem map_eq_ok_iff_sets {α : Type} {read : Reading (α × List Char)} {s s' : Settings} {f : Field}
    {doc : α → Document} {put : α → Settings}
    (hread : ∀ a after, read = .ok (a, after) ↔ v = doc a ∧ after = rest)
    (hput : ∀ a, s.Sets f (doc a) (put a)) (hdoc : ∀ s' : Settings, ∃ a, s'.member f = doc a) :
    (read.map fun (a, rest) => (put a, rest)) = .ok (s', after) ↔ s.Sets f v s' ∧ after = rest := by
  rw [map_eq_ok_iff]
  constructor
  · rintro ⟨⟨a, rest'⟩, ha, heq⟩
    obtain ⟨rfl, rfl⟩ := Prod.mk.inj heq
    obtain ⟨rfl, rfl⟩ := (hread a rest').1 ha
    exact ⟨hput a, rfl⟩
  · rintro ⟨hsets, rfl⟩
    obtain ⟨a, ha⟩ := hdoc s'
    have hv : v = doc a := hsets.here.symm.trans ha
    have hs : put a = s' := (hput a).eq (hv ▸ hsets)
    exact ⟨(a, after), (hread a after).2 ⟨hv, rfl⟩, congrArg (·, after) hs⟩

/-- **A field is read** if its value has the kind of the field, and then it has this value. -/
theorem readField_eq_ok_iff (hblanks : Blanks blanks) (h : IsValue v text) {s s' : Settings}
    {f : Field} :
    s.readField (blanks ++ (text ++ rest)) f = .ok (s', after) ↔ s.Sets f v s' ∧ after = rest := by
  cases f with
  | dateFormat =>
    exact map_eq_ok_iff_sets (fun _ _ => readOption_eq_ok_iff hblanks h)
      (fun o => s.sets_withField .dateFormat { dateFormat := o }) fun s' => ⟨s'.dateFormat, rfl⟩
  | offsetCompatibility =>
    exact map_eq_ok_iff_sets (fun _ _ => readBool_eq_ok_iff hblanks h)
      (fun b => s.sets_withField .offsetCompatibility { offsetCompatibility := b })
      fun s' => ⟨s'.offsetCompatibility, rfl⟩
  | quoteNames =>
    exact map_eq_ok_iff_sets (fun _ _ => readBool_eq_ok_iff hblanks h)
      (fun b => s.sets_withField .quoteNames { quoteNames := b }) fun s' => ⟨s'.quoteNames, rfl⟩
  | tablePrefix =>
    exact map_eq_ok_iff_sets (fun _ _ => readString_eq_ok_iff hblanks h)
      (fun t => s.sets_withField .tablePrefix { tablePrefix := t }) fun s' => ⟨s'.tablePrefix, rfl⟩
  | castPattern =>
    exact map_eq_ok_iff_sets (fun _ _ => readOption_eq_ok_iff hblanks h)
      (fun o => s.sets_withField .castPattern { castPattern := o }) fun s' => ⟨s'.castPattern, rfl⟩

end Settings

end Db2

end SqlDialect
