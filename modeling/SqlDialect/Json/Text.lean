import SqlDialect.Text.Hexadecimal

/-!
# Texts in JSON

How a text is written in JSON: between quotation marks, with a backslash before quotation marks and
backslashes, and control characters escaped. All other characters stand for themselves.
-/

namespace SqlDialect.Json

open Text

/-- A character inside a written text. -/
def writtenChar (c : Char) : List Char :=
  if c = '"' then ['\\', '"']
  else if c = '\\' then ['\\', '\\']
  else if c = '\x08' then ['\\', 'b']
  else if c = '\x0c' then ['\\', 'f']
  else if c = '\n' then ['\\', 'n']
  else if c = '\r' then ['\\', 'r']
  else if c = '\t' then ['\\', 't']
  else if c.toNat < 0x20 then ['\\', 'u', '0', '0', hexDigit (c.toNat / 16), hexDigit c.toNat]
  else [c]

/-- The characters of a written text, with the quotation marks. -/
def writtenChars (text : String) : List Char :=
  '"' :: text.toList.flatMap writtenChar ++ ['"']

/-- The text as it is written in JSON. -/
def written (text : String) : String := String.ofList (writtenChars text)

end SqlDialect.Json
