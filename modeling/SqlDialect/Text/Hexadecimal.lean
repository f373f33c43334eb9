/-!
# Hexadecimal digits

The digits of numbers to the base 16. They are written with small letters and read in either case;
`hexValue?_hexDigit` says that what is written is read back.
-/

namespace SqlDialect.Text

/-- The digit of a number below 16; of a larger one, its last digit. -/
def hexDigit (n : Nat) : Char := Nat.digitChar (n % 16)

/-- The value of a digit. -/
def hexValue? (c : Char) : Option Nat :=
  if '0' ≤ c ∧ c ≤ '9' then some (c.toNat - 48)
  else if 'a' ≤ c ∧ c ≤ 'f' then some (c.toNat - 87)
  else if 'A' ≤ c ∧ c ≤ 'F' then some (c.toNat - 55)
  else none

@[simp] theorem hexValue?_hexDigit (n : Nat) : hexValue? (hexDigit n) = some (n % 16) := by
  have h : ∀ m : Fin 16, hexValue? (Nat.digitChar m) = some m.val := by decide
  exact h ⟨n % 16, Nat.mod_lt n (by decide)⟩

end SqlDialect.Text
