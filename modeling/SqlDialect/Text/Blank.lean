import SqlDialect.Text.Ranges

/-!
# Blank characters

The characters with the Unicode property `White_Space`, and cutting them off both ends of a text.
`trim` is what separates a name from its alias and an operator from the blanks around it.
-/

namespace SqlDialect.Text

/-- The characters with the Unicode property `White_Space`. -/
def blanks : Ranges := [
  (0x9, 0xD), (0x20, 0x20), (0x85, 0x85), (0xA0, 0xA0), (0x1680, 0x1680), (0x2000, 0x200A),
  (0x2028, 0x2029), (0x202F, 0x202F), (0x205F, 0x205F), (0x3000, 0x3000)]

/-- Whether a character is blank. -/
def isBlank (c : Char) : Bool := blanks.has c

/-- The text without the blanks it starts with. -/
def trimStart (text : List Char) : List Char := text.dropWhile isBlank

/-- The text without the blanks it ends in. -/
def trimEnd (text : List Char) : List Char := (trimStart text.reverse).reverse

/-- The text without the blanks at its two ends. -/
def trim (text : List Char) : List Char := trimEnd (trimStart text)

/-! ## Cutting shortens -/

theorem length_trimStart_le (text : List Char) : (trimStart text).length ≤ text.length := by
  induction text with
  | nil => simp [trimStart]
  | cons c cs ih =>
    simp only [trimStart, List.dropWhile_cons] at ih ⊢
    split <;> simp only [List.length_cons] at * <;> omega

theorem length_trim_le (text : List Char) : (trim text).length ≤ text.length := by
  simp only [trim, trimEnd, List.length_reverse]
  exact Nat.le_trans (length_trimStart_le _) (by simpa using length_trimStart_le text)

end SqlDialect.Text
