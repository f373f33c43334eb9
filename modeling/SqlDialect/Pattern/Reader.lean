import SqlDialect.Pattern.Automaton
import SqlDialect.Pattern.Meaning
import SqlDialect.Text.Hexadecimal

/-!
# Reading patterns

The grammar of written patterns, read from left to right. A `Reader` takes characters off an
`Input` and fails at text that is no pattern; why it fails is not told.

With the flag `x` on, blanks are skipped between the parts of a pattern, and so are comments, which
begin with `#` and end with the line. The flag holds to the end of the group in which it is set, so
it belongs to the input (`Input.ignoreBlanks`) and is put back when a group ends.

`Pattern.parse?` reads a whole text and refuses patterns that are nested too deep or too large.
-/

namespace SqlDialect.Pattern

open Text

/-! ## Input -/

/-- What is left to read, with what was read that bears on it. -/
structure Input where
  rest : List Char
  ignoreBlanks : Bool := false
  /-- The names of the groups so far. -/
  groupNames : List (List Char) := []

/-- A step of reading, which may fail. -/
abbrev Reader := StateT Input Option

namespace Reader

/-- The text after the blanks and comments that it starts with. -/
def dropLayout : Bool → List Char → List Char
  | _, [] => []
  | true, c :: cs => dropLayout (c ≠ '\n') cs
  | false, c :: cs =>
    if isBlank c then dropLayout false cs
    else if c = '#' then dropLayout true cs
    else c :: cs

/-- Fail. -/
def fail {α : Type} : Reader α := fun _ => none

/-- What is left to read. -/
def rest : Reader (List Char) := return (← get).rest

/-- Go on at another place. -/
def goTo (place : List Char) : Reader Unit := modify fun i => { i with rest := place }

/-- Skip blanks and comments, if they are to be ignored. -/
def skipLayout : Reader Unit :=
  modify fun i => if i.ignoreBlanks then { i with rest := dropLayout false i.rest } else i

/-- Skip so many characters. -/
def skip (n : Nat) : Reader Unit := modify fun i => { i with rest := i.rest.drop n }

/-- Skip one character and the layout after it. -/
def step : Reader Unit := do
  skip 1
  skipLayout

/-- The next character, which is not taken; fail at the end. -/
def current : Reader Char := do
  match ← rest with
  | c :: _ => return c
  | [] => fail

/-- Skip one character, which has to be this one. -/
def expect (c : Char) : Reader Unit := do
  if (← current) = c then skip 1 else fail

/-- Skip the text if it comes next, and tell whether it did. -/
def accept (text : String) : Reader Bool := do
  if text.toList.isPrefixOf (← rest) then
    skip text.length
    return true
  else return false

/-! ## Numbers -/

/-- The character with this code point, if there is one. -/
def charOf? (n : Nat) : Option Char := if n.isValidChar then some (Char.ofNat n) else none

/-- So many hexadecimal digits, with layout between and after them. -/
def hexDigits : Nat → Nat → Reader Nat
  | 0, value => return value
  | n + 1, value => do
    match hexValue? (← current) with
    | some d =>
      step
      hexDigits n (value * 16 + d)
    | none => fail

/-- Hexadecimal digits up to a closing brace, of which there has to be one. -/
def bracedHex : Nat → Option Nat → Reader Nat
  | 0, _ => fail
  | fuel + 1, value? => do
    let c ← current
    if c = '\x7d' then
      step
      match value? with
      | some value => return value
      | none => fail
    else
      match hexValue? c with
      | some d =>
        step
        bracedHex fuel (some (value?.getD 0 * 16 + d))
      | none => fail

/-- Decimal digits with layout between them. -/
def decimalDigits : Nat → Option Nat → Reader Nat
  | 0, _ => fail
  | fuel + 1, value? => do
    match (← rest).head? with
    | some c =>
      if '0' ≤ c ∧ c ≤ '9' then
        step
        decimalDigits fuel (some (value?.getD 0 * 10 + (c.toNat - 48)))
      else
        match value? with
        | some value => return value
        | none => fail
    | none =>
      match value? with
      | some value => return value
      | none => fail

/-- A count of rounds, which fits 32 bits and may stand between blanks. -/
def count : Reader Nat := do
  goTo ((← rest).dropWhile isBlank)
  let n ← decimalDigits ((← rest).length + 1) none
  goTo ((← rest).dropWhile isBlank)
  if n < UInt32.size then return n else fail

/-! ## Escapes -/

/-- The characters that have a meaning of their own in patterns. -/
def metaCharacters : List Char := "\\.+*?()|[]\x7b\x7d^$#&-~".toList

/-- Whether a character may stand behind a backslash for itself. -/
def isEscapable (c : Char) : Bool :=
  metaCharacters.contains c ||
    (decide (c.toNat < 0x80) && !c.isAlphanum && c != '<' && c != '>')

/-- A character given by hexadecimal digits, so many or in braces. -/
def hexCharacter (digits : Nat) : Reader Atom := do
  step
  if (← current) = '\x7b' then
    step
    match charOf? (← bracedHex ((← rest).length + 1) none) with
    | some c => return .literal c false
    | none => fail
  else
    match charOf? (← hexDigits digits 0) with
    | some c => return .literal c (digits = 2)
    | none => fail

/-- The rest of a name in braces, after what was read of it in reverse. The character before it
comes next. -/
def bracedName : Nat → List Char → Reader (List Char)
  | 0, _ => fail
  | fuel + 1, read => do
    step
    let c ← current
    if c = '\x7d' then
      skip 1
      return read.reverse
    else bracedName fuel (c :: read)

/-- A property by one letter or by a name in braces. -/
def propertyName : Reader (List Char) := do
  step
  let c ← current
  if c = '\x7b' then bracedName (← rest).length []
  else if c = '\\' then fail
  else
    step
    return [c]

/-- Whether a character may be in the name of a word boundary. -/
def isBoundaryLetter (c : Char) : Bool := c.isAlpha || c == '-'

/-- The rest of the name of a word boundary and its closing brace, after what was read of it in
reverse. -/
def boundaryLetters : Nat → List Char → Reader (List Char)
  | 0, _ => fail
  | fuel + 1, read => do
    let c ← current
    if isBoundaryLetter c then
      step
      boundaryLetters fuel (c :: read)
    else if c = '\x7d' then
      skip 1
      return read.reverse
    else fail

/-- The name in braces behind a word boundary, if a letter or a hyphen comes first; otherwise the
braces count rounds. -/
def boundaryName? : Reader (Option (List Char)) := do
  let place ← rest
  step
  if isBoundaryLetter (← current) then return some (← boundaryLetters (place.length + 1) [])
  else
    goTo place
    return none

/-- A word boundary, perhaps one that is restricted to one side. -/
def wordBoundary : Reader Assertion := do
  if (← rest).head? = some '\x7b' then
    match ← boundaryName? with
    | none => return .wordBoundary
    | some name =>
      if name = "start".toList then return .wordStart
      else if name = "end".toList then return .wordEnd
      else if name = "start-half".toList then return .wordStartHalf
      else if name = "end-half".toList then return .wordEndHalf
      else fail
  else return .wordBoundary

/-- What a backslash and the character behind it stand for; the backslash comes next. -/
def escape : Reader Atom := do
  skip 1
  let c ← current
  match c with
  | 'x' => hexCharacter 2
  | 'u' => hexCharacter 4
  | 'U' => hexCharacter 8
  | 'p' => return .property (← propertyName) false
  | 'P' => return .property (← propertyName) true
  | _ =>
    skip 1
    if isEscapable c then return .literal c false
    else
      match c with
      | 'd' => return .kind .digit false
      | 'D' => return .kind .digit true
      | 's' => return .kind .blank false
      | 'S' => return .kind .blank true
      | 'w' => return .kind .word false
      | 'W' => return .kind .word true
      | 'a' => return .literal '\x07' false
      | 'f' => return .literal '\x0c' false
      | 't' => return .literal '\t' false
      | 'n' => return .literal '\n' false
      | 'r' => return .literal '\r' false
      | 'v' => return .literal '\x0b' false
      | 'A' => return .assertion .textStart
      | 'z' => return .assertion .textEnd
      | 'b' => return .assertion (← wordBoundary)
      | 'B' => return .assertion .notWordBoundary
      | '<' => return .assertion .wordStart
      | '>' => return .assertion .wordEnd
      | _ => fail

/-! ## Classes -/

/-- The ASCII characters of a named class. -/
def asciiClass? (name : List Char) : Option Ranges :=
  match String.ofList name with
  | "alnum" => some [(0x30, 0x39), (0x41, 0x5A), (0x61, 0x7A)]
  | "alpha" => some [(0x41, 0x5A), (0x61, 0x7A)]
  | "ascii" => some [(0, 0x7F)]
  | "blank" => some [(0x9, 0x9), (0x20, 0x20)]
  | "cntrl" => some [(0, 0x1F), (0x7F, 0x7F)]
  | "digit" => some [(0x30, 0x39)]
  | "graph" => some [(0x21, 0x7E)]
  | "lower" => some [(0x61, 0x7A)]
  | "print" => some [(0x20, 0x7E)]
  | "punct" => some [(0x21, 0x2F), (0x3A, 0x40), (0x5B, 0x60), (0x7B, 0x7E)]
  | "space" => some [(0x9, 0xD), (0x20, 0x20)]
  | "upper" => some [(0x41, 0x5A)]
  | "word" => some [(0x30, 0x39), (0x41, 0x5A), (0x5F, 0x5F), (0x61, 0x7A)]
  | "xdigit" => some [(0x30, 0x39), (0x41, 0x46), (0x61, 0x66)]
  | _ => none

/-- A named class such as `[:alpha:]` at the start of a text, with what follows it. -/
def namedClass? : List Char → Option (ClassTree × List Char)
  | '[' :: ':' :: '^' :: cs => named true cs
  | '[' :: ':' :: cs => named false cs
  | _ => none
where
  named (negated : Bool) (cs : List Char) : Option (ClassTree × List Char) :=
    match cs.dropWhile fun c => c != ':' with
    | ':' :: ']' :: after =>
      (asciiClass? (cs.takeWhile fun c => c != ':')).map fun rs => (.ascii rs negated, after)
    | _ => none

/-- The item that an atom is in a class. -/
def classItem? : Atom → Option ClassTree
  | .literal c _ => some (.literal c)
  | .kind k negated => some (.kind k negated)
  | .property name negated => some (.property name negated)
  | .dot => none
  | .assertion _ => none

/-- An escape or a single character of a class. -/
def classAtom : Reader Atom := do
  let c ← current
  if c = '\\' then escape
  else
    skip 1
    return .literal c false

/-- The character after the next one, without layout before it. It is looked for no further than
behind one `#`. -/
def peekPastLayout : Reader (Option Char) := do
  let i ← get
  let after := i.rest.drop 1
  if !i.ignoreBlanks then return after.head?
  else
    match after.dropWhile isBlank with
    | '#' :: comment =>
      match comment.dropWhile isBlank with
      | c :: _ => return some c
      | [] => return after.head?
    | c :: _ => return some c
    | [] => return after.head?

/-- One item of a class, or a range of characters. -/
def classRange : Reader ClassTree := do
  let first ← classAtom
  skipLayout
  let c ← current
  let next ← peekPastLayout
  if c ≠ '-' || next = some ']' || next = some '-' then
    match classItem? first with
    | some item => return item
    | none => fail
  else
    step
    let last ← classAtom
    match first, last with
    | .literal a _, .literal b _ => if a ≤ b then return .range a b else fail
    | _, _ => fail

/-- The start of a class, which comes next: whether it is negated, and the hyphens and the bracket
that stand for themselves because they come first. The items are in reverse. -/
def openClass : Reader (Bool × List ClassTree) := do
  step
  let negated := (← current) = '^'
  if negated then step
  let hyphens ← leading ((← rest).length + 1) []
  if hyphens.isEmpty && (← current) = ']' then
    step
    let _ ← current
    return (negated, [.literal ']'])
  else return (negated, hyphens)
where
  leading : Nat → List ClassTree → Reader (List ClassTree)
    | 0, _ => fail
    | fuel + 1, items => do
      if (← current) = '-' then
        step
        leading fuel (.literal '-' :: items)
      else return items

/-- The union of items that were read in reverse. -/
def unionOf : List ClassTree → ClassTree
  | [] => .empty
  | [item] => item
  | items => .union items.reverse

/-- The operation that waits for its right-hand side, applied to it. -/
def close (pending : Option (ClassOp × ClassTree)) (right : ClassTree) : ClassTree :=
  match pending with
  | some (o, left) => .op o left right
  | none => right

/-- The rest of a class up to its bracket, after the items so far in reverse. -/
def classBody : Nat → Option (ClassOp × ClassTree) → List ClassTree → Reader ClassTree
  | 0, _, _ => fail
  | fuel + 1, pending, items => do
    skipLayout
    let text ← rest
    match text with
    | [] => fail
    | '[' :: _ =>
      match namedClass? text with
      | some (item, after) =>
        goTo after
        classBody fuel pending (item :: items)
      | none =>
        let (negated, first) ← openClass
        let inside ← classBody fuel none first
        classBody fuel pending (.bracket negated inside :: items)
    | ']' :: _ =>
      skip 1
      return close pending (unionOf items)
    | '&' :: '&' :: after =>
      goTo after
      classBody fuel (some (.inter, close pending (unionOf items))) []
    | '-' :: '-' :: after =>
      goTo after
      classBody fuel (some (.diff, close pending (unionOf items))) []
    | '~' :: '~' :: after =>
      goTo after
      classBody fuel (some (.symmDiff, close pending (unionOf items))) []
    | _ =>
      let item ← classRange
      classBody fuel pending (item :: items)

/-! ## Groups -/

/-- The flags of a group up to `:` or `)`, with that character and what follows it. -/
def flagItems : Bool → Bool → FlagChange → List Char → Option (FlagChange × Char × List Char)
  | _, _, _, [] => none
  | negated, dangling, change, c :: cs =>
    if c = ':' ∨ c = ')' then (if dangling then none else some (change.reverse, c, cs))
    else if c = '-' then (if negated then none else flagItems true true change cs)
    else
      match Flag.ofLetter? c with
      | none => none
      | some flag =>
        if change.any fun (other, _) => other = flag then none
        else flagItems negated false ((flag, !negated) :: change) cs

/-- Whether a character may be in the name of a group. -/
def isNameCharacter (first : Bool) (c : Char) : Bool :=
  if first then c == '_' || isAlphabetic c
  else c == '_' || c == '.' || c == '[' || c == ']' || isAlphanumeric c

/-- The name of a group and the angle bracket behind it; no two groups have one name. -/
def groupName : Reader Unit := do
  let i ← get
  let name := i.rest.takeWhile fun c => c != '>'
  match name, i.rest.drop name.length with
  | c :: cs, '>' :: after =>
    if isNameCharacter true c && cs.all (isNameCharacter false) && !i.groupNames.contains name then
      modify fun i => { i with rest := after, groupNames := name :: i.groupNames }
    else fail
  | _, _ => fail

/-- How a parenthesis goes on. -/
inductive Opening
  /-- Flags for the rest of the group around it. -/
  | flags (change : FlagChange)
  | group (change : FlagChange)
  /-- A numbered group, which may have a name. -/
  | capture

/-- What comes after an opening parenthesis, which comes next. -/
def opening : Reader Opening := do
  step
  let text ← rest
  if ["?=", "?!", "?<=", "?<!"].any fun look => look.toList.isPrefixOf text then fail
  else if ← accept "?P<" then
    groupName
    return .capture
  else if ← accept "?<" then
    groupName
    return .capture
  else if ← accept "?" then
    match flagItems false false [] (← rest) with
    | some (change, ')', after) =>
      goTo after
      if change.isEmpty then fail else return .flags change
    | some (change, _, after) =>
      goTo after
      return .group change
    | none => fail
  else return .capture

/-- Set whether blanks are ignored, if the flags say so. -/
def applyLayoutFlag (change : FlagChange) : Reader Unit :=
  match change.find? fun (flag, _) => flag = .ignoreBlanks with
  | some (_, value) => modify fun i => { i with ignoreBlanks := value }
  | none => pure ()

/-! ## Repetitions -/

/-- Skip the question mark that makes a repetition lazy, if it comes next. -/
def skipLazyMark : Reader Unit := do
  let _ ← accept "?"

/-- The bounds of a repetition in braces; the opening brace comes next. -/
def bounds : Reader (Nat × Option Nat) := do
  step
  let _ ← current
  let least ← count
  let most ←
    if (← current) = ',' then
      step
      if (← current) = '\x7d' then pure none else some <$> count
    else pure (some least)
  if (← current) = '\x7d' then
    step
    skipLazyMark
    if most.all fun m => least ≤ m then return (least, most) else fail
  else fail

/-- The items so far, in reverse, with the last one repeated. -/
def repeatLast (least : Nat) (most : Option Nat) : List Tree → Reader (List Tree)
  | [] => fail
  | .empty :: _ => fail
  | .flags _ :: _ => fail
  | t :: ts => return .repetition t least most :: ts

/-! ## Patterns -/

/-- Items that were read in reverse, one after another. -/
def seqOf : List Tree → Tree
  | [] => .empty
  | [t] => t
  | ts => .seq ts.reverse

/-- Branches that were read in reverse. -/
def altOf : List Tree → Tree
  | [] => .empty
  | [t] => t
  | ts => .alt ts.reverse

/-- The rest of a group up to its parenthesis or the end, after the branches and the items so far,
both in reverse. -/
def body : Nat → List Tree → List Tree → Reader Tree
  | 0, _, _ => fail
  | fuel + 1, branches, items => do
    skipLayout
    match (← rest).head? with
    | none => return altOf (seqOf items :: branches)
    | some ')' => return altOf (seqOf items :: branches)
    | some '|' =>
      skip 1
      body fuel (seqOf items :: branches) []
    | some '(' =>
      match ← opening with
      | .flags change =>
        applyLayoutFlag change
        body fuel branches (.flags change :: items)
      | .group change =>
        let outer := (← get).ignoreBlanks
        applyLayoutFlag change
        let inside ← body fuel [] []
        expect ')'
        modify fun i => { i with ignoreBlanks := outer }
        body fuel branches (.group change inside :: items)
      | .capture =>
        let outer := (← get).ignoreBlanks
        let inside ← body fuel [] []
        expect ')'
        modify fun i => { i with ignoreBlanks := outer }
        body fuel branches (.capture inside :: items)
    | some '[' =>
      let (negated, first) ← openClass
      let inside ← classBody ((← rest).length + 1) none first
      body fuel branches (.bracket negated inside :: items)
    | some '?' =>
      skip 1
      skipLazyMark
      body fuel branches (← repeatLast 0 (some 1) items)
    | some '*' =>
      skip 1
      skipLazyMark
      body fuel branches (← repeatLast 0 none items)
    | some '+' =>
      skip 1
      skipLazyMark
      body fuel branches (← repeatLast 1 none items)
    | some '\x7b' =>
      let (least, most) ← bounds
      body fuel branches (← repeatLast least most items)
    | some '\\' => body fuel branches (.atom (← escape) :: items)
    | some '.' =>
      skip 1
      body fuel branches (.atom .dot :: items)
    | some '^' =>
      skip 1
      body fuel branches (.atom (.assertion .lineStart) :: items)
    | some '$' =>
      skip 1
      body fuel branches (.atom (.assertion .lineEnd) :: items)
    | some c =>
      skip 1
      body fuel branches (.atom (.literal c false) :: items)

end Reader

/-! ## Whole patterns -/

/-- The tree of a written pattern, if the whole text is one. -/
def Tree.parse? (text : String) : Option Tree :=
  match (Reader.body (text.length + 1) [] []).run { rest := text.toList } with
  | some (t, { rest := [], .. }) => some t
  | _ => none

/-- The pattern that a text writes, unless the text is no pattern or one that is refused. -/
def parse? (text : String) : Option Pattern := do
  let t ← Tree.parse? text
  if t.depth > depthLimit then none
  else
    let (p, _) ← t.pattern? {}
    if p.fits then some p else none

end SqlDialect.Pattern
