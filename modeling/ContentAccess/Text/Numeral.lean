/-!
# Decimal numerals

Integers are read from ASCII digits with an optional sign.  Any number of
leading zeros is allowed, and a value outside the range asked for is refused
instead of wrapping around.
-/

namespace ContentAccess
namespace Text

/-- The value of a digit; meaningful for ASCII digits. -/
def digitValue (digit : Char) : Nat :=
  digit.toNat - '0'.toNat

/-- The value of a run of digits, most significant first. -/
def decimalValue (digits : List Char) : Nat :=
  digits.foldl (fun value digit => 10 * value + digitValue digit) 0

/-- The text is a non-empty run of ASCII digits. -/
def isDigits (text : List Char) : Bool :=
  !text.isEmpty && text.all Char.isDigit

/-- Reads a non-empty run of ASCII digits. -/
def digits? (text : List Char) : Option Nat :=
  if isDigits text then some (decimalValue text) else none

/-- Reads digits with an optional plus sign. -/
def natural? : List Char → Option Nat
  | '+' :: digits => digits? digits
  | text => digits? text

/-- Reads digits with an optional plus or minus sign. -/
def integer? : List Char → Option Int
  | '-' :: digits => (digits? digits).map fun value => -(value : Int)
  | text => (natural? text).map Int.ofNat

/-- Reads an unsigned number of at most 32 bits. -/
def word32? (text : List Char) : Option UInt32 := do
  let value ← natural? text
  if value < UInt32.size then some (UInt32.ofNat value) else none

/-- Reads an integer that fits into 32 bits with a sign. -/
def integer32? (text : List Char) : Option Int := do
  let value ← integer? text
  if -2147483648 ≤ value ∧ value ≤ 2147483647 then some value else none

/-- The decimal digits of a number, without leading zeros. -/
def decimalDigits (value : Nat) : List Char :=
  Nat.toDigits 10 value

@[simp] theorem decimalValue_nil : decimalValue [] = 0 := rfl

/-- One further digit multiplies the value by ten and adds the digit. -/
theorem decimalValue_concat (digits : List Char) (digit : Char) :
    decimalValue (digits ++ [digit]) = 10 * decimalValue digits + digitValue digit := by
  simp [decimalValue]

end Text
end ContentAccess
