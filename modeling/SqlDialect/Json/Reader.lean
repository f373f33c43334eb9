import SqlDialect.Decimal.Shortest
import SqlDialect.Text.Hexadecimal

/-!
# Reading JSON

Reading the parts of a JSON text: blanks, words, strings and numbers. Each reader takes the rest of
the text and gives what it read with what is left. A text that ends too early (`Fault.ended`) is
told apart from one that is no JSON (`Fault.malformed`), and the first fault met is the one
reported.

Escapes above the basic plane are pairs of surrogates; a surrogate without its partner is
malformed. A number is an integer if it is written as one and fits 64 bits, and a floating-point
number otherwise; digits that do not fit 64 bits are dropped.
-/

namespace SqlDialect.Json

open Text

/-- Why a text cannot be read. -/
inductive Fault
  | ended
  | malformed
  deriving DecidableEq, Repr

/-- A reader takes characters off a text. -/
abbrev Reader (α : Type) := List Char → Except Fault (α × List Char)

/-- Whether a character is a blank of JSON. -/
def isBlank (c : Char) : Bool := c == ' ' || c == '\t' || c == '\n' || c == '\r'

/-- The text after the blanks it starts with. -/
def skipBlanks (text : List Char) : List Char := text.dropWhile isBlank

/-- Read the characters of a word. -/
def word : List Char → Reader Unit
  | [], text => .ok ((), text)
  | _ :: _, [] => .error .ended
  | c :: cs, d :: text => if c = d then word cs text else .error .malformed

/-! ## Strings -/

/-- The number that four hexadecimal digits write. -/
def hexNumber? (a b c d : Char) : Option Nat := do
  return (((← hexValue? a) * 16 + (← hexValue? b)) * 16 + (← hexValue? c)) * 16 + (← hexValue? d)

/-- Four hexadecimal digits. The text has ended too early if it has fewer than four bytes. -/
def hexUnit (text : List Char) : Except Fault (Nat × List Char) :=
  match text with
  | a :: b :: c :: d :: rest =>
    match hexNumber? a b c d with
    | some n => .ok (n, rest)
    | none => .error .malformed
  | _ => .error (if (String.ofList text).utf8ByteSize < 4 then .ended else .malformed)

/-- The second half of a pair of surrogates, escaped like the first. -/
def lowSurrogate : Reader Nat
  | [] => .error .ended
  | '\\' :: [] => .error .ended
  | '\\' :: 'u' :: text =>
    match hexUnit text with
    | .ok (n, rest) => if 0xDC00 ≤ n ∧ n ≤ 0xDFFF then .ok (n, rest) else .error .malformed
    | .error e => .error e
  | _ => .error .malformed

/-- What follows the letter of a hexadecimal escape. -/
def hexEscape (text : List Char) : Except Fault (Char × List Char) := do
  let (n, rest) ← hexUnit text
  if 0xDC00 ≤ n ∧ n ≤ 0xDFFF then .error .malformed
  else if 0xD800 ≤ n ∧ n ≤ 0xDBFF then
    let (low, rest) ← lowSurrogate rest
    return (Char.ofNat ((n - 0xD800) * 1024 + (low - 0xDC00) + 0x10000), rest)
  else return (Char.ofNat n, rest)

/-- The character that a letter behind a backslash stands for. -/
def escaped? : Char → Option Char
  | '"' => some '"'
  | '\\' => some '\\'
  | '/' => some '/'
  | 'b' => some '\x08'
  | 'f' => some '\x0c'
  | 'n' => some '\n'
  | 'r' => some '\r'
  | 't' => some '\t'
  | _ => none

/-- What follows a backslash. -/
def escape : Reader Char
  | [] => .error .ended
  | 'u' :: text => hexEscape text
  | c :: text =>
    match escaped? c with
    | some d => .ok (d, text)
    | none => .error .malformed

/-- The next character of a string, or `none` for the quotation mark that ends it. -/
def stringChar : Reader (Option Char)
  | [] => .error .ended
  | '"' :: text => .ok (none, text)
  | '\\' :: text =>
    match escape text with
    | .ok (c, rest) => .ok (some c, rest)
    | .error e => .error e
  | c :: text => if c.toNat < 0x20 then .error .malformed else .ok (some c, text)

/-- The rest of a string of at most `fuel` characters. -/
def stringWithin : Nat → Reader (List Char)
  | 0, _ => .error .ended
  | fuel + 1, text =>
    match stringChar text with
    | .error e => .error e
    | .ok (none, rest) => .ok ([], rest)
    | .ok (some c, rest) =>
      match stringWithin fuel rest with
      | .ok (cs, rest) => .ok (c :: cs, rest)
      | .error e => .error e

/-- The rest of a string behind its first quotation mark. -/
def string : Reader String := fun text =>
  match stringWithin (text.length + 1) text with
  | .ok (cs, rest) => .ok (String.ofList cs, rest)
  | .error e => .error e

/-! ## Numbers -/

/-- A number as it was read. -/
inductive Number
  | integer (n : Int)
  | float (x : Double)
  deriving DecidableEq, Repr

/-- The digits a text starts with, and what follows them. -/
def spanDigits (text : List Char) : List Nat × List Char :=
  ((text.takeWhile Char.isDigit).map fun c => c.toNat - 48, text.dropWhile Char.isDigit)

/-- Digits put behind a number as long as it fits 64 bits, with the count of those left over. -/
def appendDigits (n : Nat) : List Nat → Nat × Nat
  | [] => (n, 0)
  | d :: ds => if n * 10 + d < UInt64.size then appendDigits (n * 10 + d) ds else (n, ds.length + 1)

/-- The floating-point number `x · 10^exponent`, computed in at most `fuel` divisions; none if it is
too large. -/
def scaleBy : Nat → Float → Int → Option Float
  | 0, x, _ => some x
  | fuel + 1, x, exponent =>
    if exponent.natAbs ≤ 308 then
      let power := Float.ofScientific 1 false exponent.natAbs
      if 0 ≤ exponent then (if (x * power).isInf then none else some (x * power))
      else some (x / power)
    else if x == 0 then some x
    else if 0 ≤ exponent then none
    else scaleBy fuel (x / Float.ofScientific 1 false 308) (exponent + 308)

/-- The number with a sign, a significand and an exponent. -/
def floatNumber (negative : Bool) (significand : Nat) (exponent : Int) : Except Fault Number :=
  match scaleBy 4 significand.toUInt64.toFloat exponent with
  | some x => .ok (.float ⟨(if negative then -x else x).toBits⟩)
  | none => .error .malformed

/-- What follows the letter of an exponent. -/
def exponent (negative : Bool) (significand : Nat) (shift : Int) : Reader Number := fun text =>
  let (down, text) :=
    match text with
    | '+' :: rest => (false, rest)
    | '-' :: rest => (true, rest)
    | _ => (false, text)
  match spanDigits text with
  | ([], []) => .error .ended
  | ([], _) => .error .malformed
  | (ds, rest) =>
    let e : Nat := ds.foldl (fun n d => n * 10 + d) 0
    match floatNumber negative significand (if down then shift - e else shift + e) with
    | .ok n => .ok (n, rest)
    | .error f => .error f

/-- An exponent, if one follows, and then the number. -/
def withExponent (negative : Bool) (significand : Nat) (shift : Int) : Reader Number
  | 'e' :: text => exponent negative significand shift text
  | 'E' :: text => exponent negative significand shift text
  | text =>
    match floatNumber negative significand shift with
    | .ok n => .ok (n, text)
    | .error f => .error f

/-- What follows the point of a number. -/
def decimals (negative : Bool) (significand : Nat) (shift : Int) : Reader Number := fun text =>
  match spanDigits text with
  | ([], []) => .error .ended
  | ([], _) => .error .malformed
  | (ds, rest) =>
    let (n, dropped) := appendDigits significand ds
    withExponent negative n (shift - (ds.length - dropped : Nat)) rest

/-- What follows the digits before the point, of which some were dropped. -/
def afterDigits (negative : Bool) (n : Nat) (dropped : Nat) : Reader Number
  | '.' :: text => decimals negative n dropped text
  | 'e' :: text => exponent negative n dropped text
  | 'E' :: text => exponent negative n dropped text
  | text =>
    let number :=
      if dropped = 0 ∧ !negative then .ok (.integer n)
      else if dropped = 0 ∧ 0 < n ∧ n ≤ 1 <<< 63 then .ok (.integer (-n))
      else floatNumber negative n dropped
    match number with
    | .ok n => .ok (n, text)
    | .error f => .error f

/-- The digits of a number behind its sign. -/
def unsignedNumber (negative : Bool) : Reader Number := fun text =>
  match spanDigits text with
  | ([], []) => .error .ended
  | ([], _) => .error .malformed
  | (0 :: _ :: _, _) => .error .malformed
  | (ds, rest) =>
    let (n, dropped) := appendDigits 0 ds
    afterDigits negative n dropped rest

/-- A number. -/
def number : Reader Number
  | '-' :: text => unsignedNumber true text
  | text => unsignedNumber false text

end SqlDialect.Json
