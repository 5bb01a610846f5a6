import ContentAccess.Error
import ContentAccess.Text.Split

/-!
# The words of a rule

A rule grants or withholds access, compares values as text, integers or
timestamps, and relates its operand to a value by one of five comparisons.
-/

namespace ContentAccess

/-- Whether a rule grants or withholds access where it applies. -/
inductive Access where
  | allow
  | deny
  deriving DecidableEq, Repr

namespace Access

/-- The written name. -/
def name : Access → String
  | allow => "allow"
  | deny => "deny"

/-- The access of this exact name. -/
def ofName? (text : String) : Option Access :=
  [allow, deny].find? fun access => access.name == text

/-- Reads a name in letters of any case. -/
def read (text : String) : Except AccessError Access :=
  match [allow, deny].find? fun access => Text.sameLetters access.name text with
  | some access => .ok access
  | none => .error (.unknownAccess text)

end Access

/-- How the values of a property are compared with the operands of a rule. -/
inductive OperandType where
  | text
  | integer
  | date
  deriving DecidableEq, Repr

namespace OperandType

/-- The written name. -/
def name : OperandType → String
  | text => "string"
  | integer => "int"
  | date => "date"

/-- The operand type of this exact name. -/
def ofName? (written : String) : Option OperandType :=
  [text, integer, date].find? fun operandType => operandType.name == written

/-- Reads a name in letters of any case. -/
def read (written : String) : Except AccessError OperandType :=
  match [text, integer, date].find? fun operandType =>
      Text.sameLetters operandType.name written with
  | some operandType => .ok operandType
  | none => .error (.unknownOperandType written)

end OperandType

/-- A relation between the operand of a rule, on the left, and a value. -/
inductive Comparison where
  | equal
  | atLeast
  | atMost
  | greater
  | less
  deriving DecidableEq, Repr

namespace Comparison

/-- All comparisons. -/
def all : List Comparison :=
  [equal, atLeast, atMost, greater, less]

/-- The written name. -/
def name : Comparison → String
  | equal => "equals"
  | atLeast => "greater_than_or_equal"
  | atMost => "less_than_or_equal"
  | greater => "greater_than"
  | less => "less_than"

/-- The comparison of this exact name. -/
def ofName? (text : String) : Option Comparison :=
  all.find? fun comparison => comparison.name == text

/-- The comparison holds between two things that are ordered like this. -/
def holds : Comparison → Ordering → Bool
  | equal, order => order == .eq
  | atLeast, order => order != .lt
  | atMost, order => order != .gt
  | greater, order => order == .gt
  | less, order => order == .lt

/-- The comparison bounds what stands on its left from above. -/
def boundsAbove : Comparison → Bool
  | atMost | less => true
  | _ => false

@[simp] theorem holds_equal (order : Ordering) : equal.holds order = (order == .eq) := rfl

@[simp] theorem holds_atLeast (order : Ordering) : atLeast.holds order = (order != .lt) := rfl

@[simp] theorem holds_atMost (order : Ordering) : atMost.holds order = (order != .gt) := rfl

@[simp] theorem holds_greater (order : Ordering) : greater.holds order = (order == .gt) := rfl

@[simp] theorem holds_less (order : Ordering) : less.holds order = (order == .lt) := rfl

end Comparison
end ContentAccess
