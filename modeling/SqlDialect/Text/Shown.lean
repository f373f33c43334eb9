import SqlDialect.Text.Printable

/-!
# Texts in messages

A text in a message stands between quotation marks. A quotation mark, a backslash and the usual
control characters are written with a backslash, and other characters that cannot be shown by their
code points.
-/

namespace SqlDialect.Text

/-- A character inside a shown text. -/
def shownChar (c : Char) : List Char :=
  if c = '"' then ['\\', '"']
  else if c = '\\' then ['\\', '\\']
  else if c = '\n' then ['\\', 'n']
  else if c = '\r' then ['\\', 'r']
  else if c = '\t' then ['\\', 't']
  else if c.toNat = 0 then ['\\', '0']
  else if isPrintable c then [c]
  else ['\\', 'u', '\x7b'] ++ Nat.toDigits 16 c.toNat ++ ['\x7d']

/-- The text as messages show it. -/
def shown (text : String) : String :=
  String.ofList ('"' :: text.toList.flatMap shownChar ++ ['"'])

end SqlDialect.Text
