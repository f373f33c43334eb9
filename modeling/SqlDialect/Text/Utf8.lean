/-!
# UTF-8

Characters as bytes, and ranges of characters as ranges of bytes. `byteRanges` takes a range apart
so that in each part every byte runs through a range of its own, whatever the others are.
-/

namespace SqlDialect.Text

/-- The bytes of a code point. -/
def utf8 (n : Nat) : List Nat :=
  if n < 0x80 then [n]
  else if n < 0x800 then [0xC0 + n / 64, 0x80 + n % 64]
  else if n < 0x10000 then [0xE0 + n / 4096, 0x80 + n / 64 % 64, 0x80 + n % 64]
  else [0xF0 + n / 262144, 0x80 + n / 4096 % 64, 0x80 + n / 64 % 64, 0x80 + n % 64]

/-- The bytes of a text. -/
def utf8Bytes (text : List Char) : List Nat := text.flatMap fun c => utf8 c.toNat

/-- A range cut behind each of some code points, which ascend. -/
def cutBehind : List Nat → Nat → Nat → List (Nat × Nat)
  | [], first, last => [(first, last)]
  | b :: bs, first, last =>
    if first ≤ b ∧ b < last then (first, b) :: cutBehind bs (b + 1) last
    else cutBehind bs first last

/-- The last code points of one, two and three bytes, and the last one before the surrogates. -/
def widthEnds : List Nat := [0x7F, 0x7FF, 0xD7FF, 0xFFFF]

/-- A range without the surrogates it begins with. -/
def dropSurrogates (r : Nat × Nat) : Option (Nat × Nat) :=
  if r.1 = 0xD800 then (if 0xE000 ≤ r.2 then some (0xE000, r.2) else none) else some r

/-- A range cut into whole blocks of so many code points and what is left at its ends. The blocks
between are taken together, and cut into larger blocks for so many levels. -/
def cutBlocks : Nat → Nat → Nat → Nat → List (Nat × Nat)
  | 0, _, first, last => [(first, last)]
  | levels + 1, size, first, last =>
    if first / size = last / size then [(first, last)]
    else
      let start := (first + size - 1) / size * size
      let stop := (last + 1) / size * size
      (if first < start then [(first, start - 1)] else []) ++
        (if start < stop then cutBlocks levels (64 * size) start (stop - 1) else []) ++
        (if stop ≤ last then [(stop, last)] else [])

/-- The ranges of bytes of a range of code points, part by part in ascending order. -/
def byteRanges (first last : Nat) : List (List (Nat × Nat)) :=
  ((cutBehind widthEnds first last).filterMap dropSurrogates).flatMap fun (a, b) =>
    let blocks := if b < 0x80 then [(a, b)] else cutBlocks 3 64 a b
    blocks.map fun (c, d) => List.zip (utf8 c) (utf8 d)

end SqlDialect.Text
