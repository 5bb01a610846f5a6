import ContentAccess.Rule.Vocabulary
import ContentAccess.Text.Numeral
import ContentAccess.Time.Timestamp

/-!
# Operands and values

How the operands of a rule are compared with a value of a node.  The operand
stands on the left, so `greater` holds when the operand is the larger of the
two.  Text that is no integer or no timestamp stands in no relation at all.
-/

namespace ContentAccess

/-- The date operand that stands for the instant of the decision. -/
def todayOperand : String := "today"

namespace Comparison

/-- The comparison holds between two integers of at most 32 bits. -/
def holdsForIntegers (comparison : Comparison) (operand value : String) : Bool :=
  match Text.integer32? operand.toList, Text.integer32? value.toList with
  | some left, some right => comparison.holds (compare left right)
  | _, _ => false

/-- The instant that a date operand stands for. -/
def operandInstant? (format : String) (now : Instant) (operand : String) : Option Instant :=
  if Text.sameLetters operand todayOperand then some now else Instant.read? format operand

/-- The comparison holds between two timestamps. -/
def holdsForDates (comparison : Comparison) (format : String) (now : Instant)
    (operand value : String) : Bool :=
  match operandInstant? format now operand, Instant.read? format value with
  | some left, some right => comparison.holds (left.order right)
  | _, _ => false

end Comparison

namespace OperandType

/-- A value satisfies a comparison with operands of this type.  Text has to be
one of the operands, whatever the comparison; integers and dates look at the
first operand only. -/
def accepts (operandType : OperandType) (comparison : Comparison) (operands : List String)
    (format : String) (now : Instant) (value : String) : Bool :=
  match operandType with
  | text => operands.contains value
  | integer => operands.head?.any fun operand => comparison.holdsForIntegers operand value
  | date => operands.head?.any fun operand => comparison.holdsForDates format now operand value

end OperandType
end ContentAccess
