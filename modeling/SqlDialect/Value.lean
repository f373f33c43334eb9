import SqlDialect.Timestamp.Basic

/-!
# Values and operands

A `Value` is what a statement sends to the database beside its text. An `Operand` of a condition is
either such a value, for which the text holds a placeholder, or raw text that binds nothing.

Two values are equal (`==`) when they are of one kind and equal there; floating-point numbers are
compared as IEEE 754 has it, so that a NaN differs from itself and the two zeros are equal.
-/

namespace SqlDialect

/-! ## Floating-point numbers -/

/-- A floating-point number of double precision, by its bits. It is carried, never computed with. -/
structure Double where
  bits : UInt64
  deriving DecidableEq, Repr

namespace Double

/-- The biased exponent. -/
def exponent (x : Double) : Nat := (x.bits.toNat >>> 52) % 2048

/-- The fraction, without the leading bit that is not stored. -/
def fraction (x : Double) : Nat := x.bits.toNat % (1 <<< 52)

/-- Whether the number is none. -/
def isNaN (x : Double) : Bool := x.exponent == 2047 && x.fraction != 0

/-- Whether the number is one of the two zeros. -/
def isZero (x : Double) : Bool := x.exponent == 0 && x.fraction == 0

/-- Equality of IEEE 754. -/
def ieeeEq (x y : Double) : Bool :=
  !x.isNaN && !y.isNaN && (x.bits == y.bits || (x.isZero && y.isZero))

instance : BEq Double := ⟨ieeeEq⟩

end Double

/-! ## Values -/

/-- A value that is bound to a placeholder. -/
inductive Value
  | null
  | bool (b : Bool)
  | int (n : Int64)
  | float (x : Double)
  | text (s : String)
  | blob (bytes : List UInt8)
  /-- Written in the dialect's format before it is bound. -/
  | timestamp (t : Timestamp)

namespace Value

/-- Values of one kind are compared there, and values of two kinds differ. -/
def sameAs : Value → Value → Bool
  | .null, .null => true
  | .bool a, .bool b => a == b
  | .int a, .int b => a == b
  | .float a, .float b => a == b
  | .text a, .text b => a == b
  | .blob a, .blob b => a == b
  | .timestamp a, .timestamp b => decide (a = b)
  | _, _ => false

instance : BEq Value := ⟨sameAs⟩

end Value

/-- What can be bound as a value. -/
class ToValue (α : Type) where
  toValue : α → Value

export ToValue (toValue)

instance : ToValue Value := ⟨id⟩
instance : ToValue Bool := ⟨.bool⟩
instance : ToValue Int64 := ⟨.int⟩
instance : ToValue Int32 := ⟨fun n => .int n.toInt64⟩
instance : ToValue UInt32 := ⟨fun n => .int n.toUInt64.toInt64⟩
instance : ToValue Double := ⟨.float⟩
instance : ToValue String := ⟨.text⟩
instance : ToValue (List UInt8) := ⟨.blob⟩
instance : ToValue Timestamp := ⟨.timestamp⟩

/-- A missing value is bound as null. -/
instance {α : Type} [ToValue α] : ToValue (Option α) :=
  ⟨fun
    | some a => toValue a
    | none => .null⟩

/-! ## Operands -/

/-- The right-hand side of a condition. -/
inductive Operand
  /-- A value, for which the text holds a placeholder. -/
  | literal (value : Value)
  /-- Text that stands in the statement as it is. -/
  | raw (sql : String)

namespace Operand

/-- The operand that binds a value. -/
def of {α : Type} [ToValue α] (a : α) : Operand := .literal (toValue a)

/-- Whether the operand stands in the statement as it is. -/
def isRaw : Operand → Bool
  | .literal _ => false
  | .raw _ => true

/-- The value that the operand binds. -/
def value? : Operand → Option Value
  | .literal value => some value
  | .raw _ => none

/-- The values that the operand binds, at most one. -/
def values (o : Operand) : List Value := o.value?.toList

end Operand

end SqlDialect
