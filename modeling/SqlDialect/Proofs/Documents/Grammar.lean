import SqlDialect.Proofs.Documents.Strings

/-!
# Documents

What a JSON document says (`Json.Document`), apart from how it is written, and the grammar of how it
may be written (`Json.IsDocument`): with any blanks between its tokens and in any spelling of its
strings. The members of an object keep their order and may repeat names.

The grammar is given by relations between documents and texts, and knows nothing of the reader.
Strings are written between their quotation marks as in `Json.WrittenPieces`; a string that holds
half of a pair of units is well-formed, but stands for no text.
-/

namespace SqlDialect.Json

/-! ## Documents -/

/-- A document. Numbers are kept as they are written, and a string that stands for no text is
`none`. -/
inductive Document
  | null
  | bool (b : Bool)
  | number (text : List Char)
  | string (text? : Option String)
  | array (items : List Document)
  | object (members : List (Option String × Document))

/-! ## Tokens -/

/-- Blanks between tokens. -/
def Blanks (text : List Char) : Prop := ∀ c ∈ text, c = ' ' ∨ c = '\t' ∨ c = '\n' ∨ c = '\r'

/-- A string between its quotation marks. -/
inductive IsString : Option String → List Char → Prop
  | intro {pieces : List Piece} {text : List Char} (h : WrittenPieces pieces text) :
    IsString ((textOf? pieces).map String.ofList) ('"' :: (text ++ ['"']))

/-- A row of digits, one at least. -/
def IsDigits (text : List Char) : Prop := text ≠ [] ∧ ∀ c ∈ text, c.isDigit

/-- The digits before the point. Only zero starts with a zero. -/
def IsWhole (text : List Char) : Prop :=
  IsDigits text ∧ (text.head? = some '0' → text = ['0'])

/-- What follows the digits of a whole number: nothing, or a point and digits. -/
inductive IsFraction : List Char → Prop
  | none : IsFraction []
  | some {digits : List Char} (h : IsDigits digits) : IsFraction ('.' :: digits)

/-- The end of a number: nothing, or a letter and digits that may have a sign. -/
inductive IsExponent : List Char → Prop
  | none : IsExponent []
  | some {letter : Char} {sign digits : List Char} (hletter : letter = 'e' ∨ letter = 'E')
    (hsign : sign = [] ∨ sign = ['+'] ∨ sign = ['-']) (h : IsDigits digits) :
    IsExponent (letter :: (sign ++ digits))

/-- A number. -/
inductive IsNumber : List Char → Prop
  | intro {sign whole fraction exponent : List Char} (hsign : sign = [] ∨ sign = ['-'])
    (hwhole : IsWhole whole) (hfraction : IsFraction fraction) (hexponent : IsExponent exponent) :
    IsNumber (sign ++ (whole ++ fraction ++ exponent))

/-! ## Values -/

section Values

variable {α : Type}

/-- A part with blanks around it. -/
inductive Padded (part : α → List Char → Prop) : α → List Char → Prop
  | intro {before text after : List Char} {a : α} (hbefore : Blanks before) (h : part a text)
    (hafter : Blanks after) : Padded part a (before ++ text ++ after)

/-- Parts with commas between them, one at least. -/
inductive Separated (part : α → List Char → Prop) : List α → List Char → Prop
  | single {a : α} {text : List Char} (h : part a text) : Separated part [a] text
  | cons {a : α} {as : List α} {text rest : List Char} (h : part a text)
    (hs : Separated part as rest) : Separated part (a :: as) (text ++ ',' :: rest)

/-- A member of an object: its name, a colon and its value. -/
inductive IsMember (value : α → List Char → Prop) : Option String × α → List Char → Prop
  | intro {name? : Option String} {a : α} {name text : List Char}
    (hname : Padded IsString name? name) (h : Padded value a text) :
    IsMember value (name?, a) (name ++ ':' :: text)

end Values

/-- A value without the blanks around it. -/
inductive IsValue : Document → List Char → Prop
  | null : IsValue .null ['n', 'u', 'l', 'l']
  | true : IsValue (.bool true) ['t', 'r', 'u', 'e']
  | false : IsValue (.bool false) ['f', 'a', 'l', 's', 'e']
  | number {text : List Char} (h : IsNumber text) : IsValue (.number text) text
  | string {text? : Option String} {text : List Char} (h : IsString text? text) :
    IsValue (.string text?) text
  | emptyArray {blanks : List Char} (h : Blanks blanks) :
    IsValue (.array []) ('[' :: (blanks ++ [']']))
  | array {items : List Document} {text : List Char} (h : Separated (Padded IsValue) items text) :
    IsValue (.array items) ('[' :: (text ++ [']']))
  | emptyObject {blanks : List Char} (h : Blanks blanks) :
    IsValue (.object []) ('\x7b' :: (blanks ++ ['\x7d']))
  | object {members : List (Option String × Document)} {text : List Char}
    (h : Separated (IsMember IsValue) members text) :
    IsValue (.object members) ('\x7b' :: (text ++ ['\x7d']))

/-- A text that writes a document. -/
def IsDocument : Document → List Char → Prop := Padded IsValue

/-! ## Writing by the grammar -/

theorem Blanks.nil : Blanks [] := by
  simp [Blanks]

theorem Padded.of_part {α : Type} {part : α → List Char → Prop} {a : α} {text : List Char}
    (h : part a text) : Padded part a text := by
  have hpadded := Padded.intro Blanks.nil h Blanks.nil
  rwa [List.nil_append, List.append_nil] at hpadded

theorem separated_intercalate {α β : Type} {part : α → List Char → Prop} {doc : β → α}
    {write : β → String} {bs : List β} (hne : bs ≠ [])
    (h : ∀ b ∈ bs, part (doc b) (write b).toList) :
    Separated part (bs.map doc) (",".intercalate (bs.map write)).toList := by
  rw [String.toList_intercalate]
  induction bs with
  | nil => exact absurd rfl hne
  | cons b bs ih =>
    have hb := h b List.mem_cons_self
    cases bs with
    | nil =>
      simp only [List.map_cons, List.map_nil, List.intercalate_singleton]
      exact .single hb
    | cons c bs =>
      have hrest := ih (by simp) fun d hd => h d (List.mem_cons_of_mem b hd)
      simp only [List.map_cons, List.intercalate_cons_cons, List.append_assoc] at hrest ⊢
      exact .cons hb hrest

theorem isString_written (t : String) : IsString (some t) (written t).toList := by
  obtain ⟨pieces, hpieces, htext⟩ := exists_writtenPieces t.toList
  have h := IsString.intro hpieces
  rw [htext, Option.map_some, String.ofList_toList] at h
  rw [written, String.toList_ofList]
  exact h

end SqlDialect.Json
