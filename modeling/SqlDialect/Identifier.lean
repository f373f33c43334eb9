import SqlDialect.Text.Blank

/-!
# Names of columns and tables

A name is a text such as `users.id as key`: an optional alias behind ` as `, and before it
segments between dots. This module takes names apart; how a segment is quoted is left to
`SqlDialect.Spelling`.

* `splitAlias?` cuts a name at its first ` as `, in any letter case, and trims both parts.
* `aliasChain` goes on cutting what follows, so that `a as b as c` is `a`, `b` and `c`.
* `segments` are the texts between the dots.
* `doubled` writes each quotation mark twice.
-/

namespace SqlDialect.Identifier

open Text

/-! ## Aliases -/

/-- What follows a leading ` as `, in any case of its two letters. -/
def dropAs? : List Char → Option (List Char)
  | ' ' :: a :: s :: ' ' :: rest =>
    if a.toLower = 'a' ∧ s.toLower = 's' then some rest else none
  | _ => none

/-- What stands before and after the first ` as `. -/
def cutAs? : List Char → Option (List Char × List Char)
  | [] => none
  | c :: cs =>
    match dropAs? (c :: cs) with
    | some rest => some ([], rest)
    | none => (cutAs? cs).map fun (before, after) => (c :: before, after)

/-- A name and its alias: the trimmed texts before and after the first ` as `. -/
def splitAliasChars? (text : List Char) : Option (List Char × List Char) :=
  (cutAs? text).map fun (before, after) => (trim before, trim after)

/-- A name and its alias: the trimmed texts before and after the first ` as `. -/
def splitAlias? (text : String) : Option (String × String) :=
  (splitAliasChars? text.toList).map fun (name, byname) => (String.ofList name, String.ofList byname)

/-- The pieces of a name whose alias is split again, at most `fuel` times. -/
def aliasChainWithin : Nat → List Char → List (List Char)
  | 0, text => [text]
  | fuel + 1, text =>
    match splitAliasChars? text with
    | some (name, byname) => name :: aliasChainWithin fuel byname
    | none => [text]

/-- The pieces of a name whose alias is split again for as long as it has an alias itself. An
alias is shorter than its text, so there are at most as many splits as characters. -/
def aliasChain (text : String) : List String :=
  (aliasChainWithin text.length text.toList).map String.ofList

/-! ## Segments -/

/-- The texts between the dots; there is always at least one. -/
def splitDots : List Char → List (List Char)
  | [] => [[]]
  | c :: cs =>
    if c = '.' then [] :: splitDots cs
    else
      match splitDots cs with
      | [] => [[c]]
      | segment :: rest => (c :: segment) :: rest

/-- The segments of a dotted name. -/
def segments (name : String) : List String := (splitDots name.toList).map String.ofList

/-- The segments of a table name with `pre` put before the last one, the table itself. -/
def prefixLast (pre : String) : List String → List String
  | [] => []
  | [table] => [pre ++ table]
  | segment :: rest => segment :: prefixLast pre rest

/-- The segments of a column name with `pre` put before the last but one, the table that the
column belongs to. -/
def prefixOwner (pre : String) : List String → List String
  | [table, column] => [pre ++ table, column]
  | segment :: rest => segment :: prefixOwner pre rest
  | [] => []

/-! ## Quotation marks -/

/-- The text with each quotation mark written twice. -/
def doubledChars : List Char → List Char
  | [] => []
  | c :: cs => if c = '"' then '"' :: '"' :: doubledChars cs else c :: doubledChars cs

/-- The text with each quotation mark written twice. -/
def doubled (text : String) : String := String.ofList (doubledChars text.toList)

/-- The segment between quotation marks, those inside it doubled; the wildcard `*` stays bare. -/
def quoted (segment : String) : String :=
  if segment = "*" then segment else "\"" ++ doubled segment ++ "\""

/-! ## Splitting shortens -/

theorem length_of_dropAs? {text rest : List Char} (h : dropAs? text = some rest) :
    rest.length + 4 = text.length := by
  unfold dropAs? at h
  split at h
  · split at h
    · cases h; simp
    · cases h
  · cases h

theorem length_of_cutAs? {text before after : List Char} (h : cutAs? text = some (before, after)) :
    before.length + after.length + 4 = text.length := by
  induction text generalizing before with
  | nil => simp [cutAs?] at h
  | cons c cs ih =>
    unfold cutAs? at h
    split at h
    · next rest hrest =>
      cases h
      simpa using length_of_dropAs? hrest
    · obtain ⟨⟨b, a⟩, hba, heq⟩ := Option.map_eq_some_iff.1 h
      cases heq
      have := ih hba
      simp only [List.length_cons]
      omega

theorem length_of_splitAliasChars? {text name byname : List Char}
    (h : splitAliasChars? text = some (name, byname)) :
    name.length + byname.length + 4 ≤ text.length := by
  obtain ⟨⟨b, a⟩, hba, heq⟩ := Option.map_eq_some_iff.1 h
  cases heq
  have := length_of_cutAs? hba
  have := length_trim_le b
  have := length_trim_le a
  omega

end SqlDialect.Identifier
