/-!
# Fields of a timestamp

Reading a timestamp collects numbers for named fields.  Each number lies in the
range of its field, and a field that is read twice has one value.
-/

namespace ContentAccess
namespace Time

/-- What one number of a timestamp says. -/
inductive Field where
  | year
  | century
  | yearOfCentury
  | quarter
  | month
  | day
  | dayOfYear
  | sundayWeek
  | mondayWeek
  | weekYear
  | yearOfWeekCentury
  | weekOfWeekYear
  /-- Counted from Monday, which is zero. -/
  | weekday
  /-- Zero before noon, one after. -/
  | halfDay
  | hourOfHalf
  | minute
  | second
  | nanosecond
  | timestamp
  /-- Seconds that local time is ahead of universal time. -/
  | offset
  deriving DecidableEq, Repr

namespace Field

/-- The least and the greatest value. -/
def range : Field → Int × Int
  | year | weekYear => (-2147483648, 2147483647)
  | century => (0, 2147483647)
  | yearOfCentury | yearOfWeekCentury => (0, 99)
  | quarter => (1, 4)
  | month => (1, 12)
  | day => (1, 31)
  | dayOfYear => (1, 366)
  | sundayWeek | mondayWeek => (0, 53)
  | weekOfWeekYear => (1, 53)
  | weekday => (0, 6)
  | halfDay => (0, 1)
  | hourOfHalf => (0, 11)
  | minute => (0, 59)
  | second => (0, 60)
  | nanosecond => (0, 999999999)
  | timestamp => (-9223372036854775808, 9223372036854775807)
  | offset => (-2147483648, 2147483647)

end Field

/-- Values of fields, each field at most once. -/
abbrev Fields := List (Field × Int)

namespace Fields

/-- The value of a field. -/
def get? (fields : Fields) (field : Field) : Option Int :=
  fields.lookup field

/-- Adds a value, unless it is out of range or contradicts the one there is. -/
def put? (fields : Fields) (field : Field) (value : Int) : Option Fields :=
  if field.range.1 ≤ value ∧ value ≤ field.range.2 then
    match fields.get? field with
    | none => some ((field, value) :: fields)
    | some present => if present = value then some fields else none
  else
    none

/-- Adds values one after another. -/
def putAll? (fields : Fields) (entries : List (Field × Int)) : Option Fields :=
  entries.foldlM (fun fields entry => fields.put? entry.1 entry.2) fields

/-- The field is not set to another value. -/
def agrees (fields : Fields) (field : Field) (value : Int) : Bool :=
  match fields.get? field with
  | none => true
  | some present => present == value

@[simp] theorem get?_nil (field : Field) : get? [] field = none := rfl

end Fields
end Time
end ContentAccess
