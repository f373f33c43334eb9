import SqlDialect.Db2.Settings
import SqlDialect.Json.Reader
import SqlDialect.Json.Text
import SqlDialect.Text.Shown

/-!
# Settings as documents

Settings are written as a JSON object with one member for each setting (`Settings.write`), and read
from an object whose members may be missing and stand in any order, or from an array of the values
in the order of the settings (`Settings.read`). Reading goes from left to right and reports the
first problem it meets: an unknown or repeated member as soon as its name is read, a value of the
wrong type before anything behind it.
-/

namespace SqlDialect.Db2

open Json

/-! ## Fields -/

/-- The fields of a document. -/
inductive Field
  | dateFormat
  | offsetCompatibility
  | quoteNames
  | tablePrefix
  | castPattern
  deriving DecidableEq, Repr

namespace Field

/-- All fields in the order in which they are written. -/
def all : List Field := [.dateFormat, .offsetCompatibility, .quoteNames, .tablePrefix, .castPattern]

/-- The name of a field. -/
def name : Field → String
  | .dateFormat => "date_format"
  | .offsetCompatibility => "offset_compatibility_mode"
  | .quoteNames => "quote_identifiers"
  | .tablePrefix => "table_prefix"
  | .castPattern => "char_cast_pattern"

/-- The field with a name. -/
def ofName? (text : String) : Option Field := all.find? fun f => f.name = text

end Field

/-! ## Faults -/

/-- What was found in place of a value. -/
inductive Found
  | null
  | bool (b : Bool)
  | number (n : Number)
  | string (s : String)
  | sequence
  | map
  deriving DecidableEq, Repr

/-- What a value should have been. -/
inductive Wanted
  | string
  | bool
  | settings
  deriving DecidableEq, Repr

/-- Why a document holds no settings. -/
inductive DocumentFault
  /-- The text is no JSON. -/
  | text (f : Json.Fault)
  | unknownField (name : String)
  | repeatedField (f : Field)
  | wrongType (found : Found) (wanted : Wanted)
  deriving DecidableEq, Repr

/-- What was found, as messages name it. -/
def Found.text : Found → String
  | .null => "null"
  | .bool true => "boolean `true`"
  | .bool false => "boolean `false`"
  | .number (.integer n) => "integer `" ++ n.repr ++ "`"
  | .number (.float x) => "floating point `" ++ x.text ++ "`"
  | .string s => "string " ++ Text.shown s
  | .sequence => "sequence"
  | .map => "map"

/-- What was wanted, as messages name it. -/
def Wanted.text : Wanted → String
  | .string => "a string"
  | .bool => "a boolean"
  | .settings => "struct Db2Config"

/-- The message of a fault in a well-formed document. Texts that are no JSON have none. -/
def DocumentFault.message? : DocumentFault → Option String
  | .text _ => none
  | .unknownField name =>
    some ("unknown field `" ++ name ++ "`, expected one of " ++
      ", ".intercalate (Field.all.map fun f => "`" ++ f.name ++ "`"))
  | .repeatedField f => some ("duplicate field `" ++ f.name ++ "`")
  | .wrongType found wanted =>
    some ("invalid type: " ++ found.text ++ ", expected " ++ wanted.text)

namespace Settings

/-! ## Writing -/

/-- A text that may be missing. -/
def writtenOption : Option String → String
  | none => "null"
  | some s => written s

/-- A truth value. -/
def writtenBool : Bool → String
  | true => "true"
  | false => "false"

/-- The value of a field. -/
def writtenField (s : Settings) : Field → String
  | .dateFormat => writtenOption s.dateFormat
  | .offsetCompatibility => writtenBool s.offsetCompatibility
  | .quoteNames => writtenBool s.quoteNames
  | .tablePrefix => written s.tablePrefix
  | .castPattern => writtenOption s.castPattern

/-- The settings as an object without blanks. -/
def write (s : Settings) : String :=
  "\x7b" ++ ",".intercalate (Field.all.map fun f => written f.name ++ ":" ++ s.writtenField f) ++
    "\x7d"

/-! ## Reading values -/

/-- What is read, or why the document holds no settings. -/
abbrev Reading (α : Type) := Except DocumentFault α

/-- The outcome of reading a part of the text. -/
def ofText {α : Type} : Except Json.Fault α → Reading α
  | .ok a => .ok a
  | .error f => .error (.text f)

/-- Fail because of the value that comes next, of which as much is read as has to be known. -/
def failAt (wanted : Wanted) (text : List Char) : DocumentFault :=
  match text with
  | [] => .text .ended
  | c :: rest =>
    let found : Except Json.Fault Found :=
      if c = 'n' then (word ['u', 'l', 'l'] rest).map fun _ => .null
      else if c = 't' then (word ['r', 'u', 'e'] rest).map fun _ => .bool true
      else if c = 'f' then (word ['a', 'l', 's', 'e'] rest).map fun _ => .bool false
      else if c = '-' ∨ c.isDigit then (Json.number text).map fun (n, _) => .number n
      else if c = '"' then (Json.string rest).map fun (s, _) => .string s
      else if c = '[' then .ok .sequence
      else if c = '\x7b' then .ok .map
      else .error .malformed
    match found with
    | .ok found => .wrongType found wanted
    | .error f => .text f

/-- A string. -/
def readString (text : List Char) : Reading (String × List Char) :=
  match skipBlanks text with
  | '"' :: rest => ofText (Json.string rest)
  | rest => .error (failAt .string rest)

/-- A string or null. -/
def readOption (text : List Char) : Reading ((Option String) × List Char) :=
  match skipBlanks text with
  | 'n' :: rest => ofText ((word ['u', 'l', 'l'] rest).map fun (_, rest) => (none, rest))
  | rest => (readString rest).map fun (s, rest) => (some s, rest)

/-- A truth value. -/
def readBool (text : List Char) : Reading (Bool × List Char) :=
  match skipBlanks text with
  | 't' :: rest => ofText ((word ['r', 'u', 'e'] rest).map fun (_, rest) => (true, rest))
  | 'f' :: rest => ofText ((word ['a', 'l', 's', 'e'] rest).map fun (_, rest) => (false, rest))
  | rest => .error (failAt .bool rest)

/-- The settings with the value of a field that is read. -/
def readField (s : Settings) (text : List Char) : Field → Reading (Settings × List Char)
  | .dateFormat =>
    (readOption text).map fun (value, rest) => ({ s with dateFormat := value }, rest)
  | .offsetCompatibility =>
    (readBool text).map fun (value, rest) => ({ s with offsetCompatibility := value }, rest)
  | .quoteNames => (readBool text).map fun (value, rest) => ({ s with quoteNames := value }, rest)
  | .tablePrefix => (readString text).map fun (value, rest) => ({ s with tablePrefix := value }, rest)
  | .castPattern =>
    (readOption text).map fun (value, rest) => ({ s with castPattern := value }, rest)

/-! ## Reading objects -/

/-- Whether an object has a further member, with what follows the quotation mark of its name, or
what follows the end of the object. -/
def nextMember (first : Bool) (text : List Char) : Except Json.Fault (Bool × List Char) :=
  match skipBlanks text with
  | [] => .error .ended
  | '\x7d' :: rest => .ok (false, rest)
  | c :: rest =>
    if first then (if c = '"' then .ok (true, rest) else .error .malformed)
    else if c = ',' then
      match skipBlanks rest with
      | [] => .error .ended
      | '"' :: rest => .ok (true, rest)
      | _ => .error .malformed
    else .error .malformed

/-- The colon behind the name of a member. -/
def colon (text : List Char) : Except Json.Fault (List Char) :=
  match skipBlanks text with
  | [] => .error .ended
  | ':' :: rest => .ok rest
  | _ => .error .malformed

/-- The name of a member, which is a field that was not read yet, and the colon behind it. -/
def memberField (seen : List Field) (text : List Char) : Reading (Field × List Char) := do
  let (name, rest) ← ofText (Json.string text)
  match Field.ofName? name with
  | none => .error (.unknownField name)
  | some f =>
    if f ∈ seen then .error (.repeatedField f)
    else
      let rest ← ofText (colon rest)
      return (f, rest)

/-- The rest of an object of at most `fuel` members. -/
def readMembers : Nat → List Field → Settings → List Char → Reading (Settings × List Char)
  | 0, _, _, _ => .error (.text .malformed)
  | fuel + 1, seen, s, text => do
    let (more, rest) ← ofText (nextMember seen.isEmpty text)
    if more then
      let (f, rest) ← memberField seen rest
      let (s, rest) ← s.readField rest f
      readMembers fuel (f :: seen) s rest
    else return (s, rest)

/-! ## Reading arrays -/

/-- The end of an array behind its last value. -/
def arrayEnd (text : List Char) : Except Json.Fault (List Char) :=
  match skipBlanks text with
  | [] => .error .ended
  | ']' :: rest => .ok rest
  | _ => .error .malformed

/-- The place of the next value of an array, or `none` before its end. -/
def nextValue (first : Bool) (text : List Char) : Except Json.Fault (Option (List Char)) :=
  match skipBlanks text with
  | [] => .error .ended
  | ']' :: _ => .ok none
  | c :: rest =>
    if first then .ok (some (c :: rest))
    else if c = ',' then
      match skipBlanks rest with
      | [] => .error .ended
      | ']' :: _ => .error .malformed
      | rest => .ok (some rest)
    else .error .malformed

/-- The values of fields in order, as far as the array goes, and its end. -/
def readValues (first : Bool) : List Field → Settings → List Char → Reading (Settings × List Char)
  | [], s, text => do
    let rest ← ofText (arrayEnd text)
    return (s, rest)
  | f :: fs, s, text => do
    match ← ofText (nextValue first text) with
    | none =>
      let rest ← ofText (arrayEnd text)
      return (s, rest)
    | some place =>
      let (s, rest) ← s.readField place f
      readValues false fs s rest

/-! ## Documents -/

/-- The object or array that a text starts with. -/
def readTop (text : List Char) : Reading (Settings × List Char) :=
  match skipBlanks text with
  | '\x7b' :: rest => readMembers (rest.length + 1) [] {} rest
  | '[' :: rest => readValues true Field.all {} rest
  | rest => .error (failAt .settings rest)

/-- The settings that a document holds; those it does not name have their defaults. -/
def read (document : String) : Except DocumentFault Settings := do
  let (s, rest) ← readTop document.toList
  if (skipBlanks rest).isEmpty then return s else .error (.text .malformed)

end Settings

end SqlDialect.Db2
