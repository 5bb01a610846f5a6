import ContentAccess.Time.Calendar
import ContentAccess.Time.Field
import ContentAccess.Time.Instant

/-!
# From fields to instants

The fields of a timestamp fix a day, a time of day and a distance from universal
time.  Fields that say more than needed have to agree.  Where day or time of day
are incomplete, seconds since 1970 may stand in for them.
-/

namespace ContentAccess
namespace Time

/-- Why fields do not give a value. -/
inductive Shortfall where
  /-- A further field could complete the value. -/
  | incomplete
  /-- No further field can help. -/
  | impossible
  deriving DecidableEq, Repr

/-- A time of day; a leap second is the second before it, with a thousand million
nanoseconds or more. -/
structure TimeOfDay where
  secondOfDay : Nat
  nanoseconds : Nat
  deriving DecidableEq, Repr

namespace Fields

/-- A full year from its parts; two digits alone mean 1970 to 2069. -/
def resolveYear (full century twoDigits : Option Int) : Except Shortfall (Option Int) :=
  match full, century, twoDigits with
  | full, none, none => .ok full
  | some year, century, twoDigits =>
      if 0 ≤ year ∧ century.getD (year / 100) = year / 100 ∧
          twoDigits.getD (year % 100) = year % 100 then
        .ok (some year)
      else
        .error .impossible
  | none, some century, some twoDigits =>
      let year := century * 100 + twoDigits
      if year ≤ 2147483647 then .ok (some year) else .error .impossible
  | none, none, some twoDigits =>
      .ok (some (if twoDigits < 70 then 2000 + twoDigits else 1900 + twoDigits))
  | none, some _, none => .error .incomplete

/-- All fields of a day agree with it. -/
def agreesWith (fields : Fields) (date : Date) : Bool :=
  let parts : Field → Int → Bool := fun field value =>
    (fields.get? field).all fun present => 0 ≤ date.year && present == value
  let weekParts : Field → Int → Bool := fun field value =>
    (fields.get? field).all fun present => 0 ≤ date.weekYear && present == value
  fields.agrees .year date.year && parts .century (date.year / 100) &&
    parts .yearOfCentury (date.year % 100) && fields.agrees .quarter date.quarter &&
    fields.agrees .month date.month &&
    fields.agrees .day date.day && fields.agrees .dayOfYear date.dayOfYear &&
    fields.agrees .sundayWeek (date.weekFrom 6) && fields.agrees .mondayWeek (date.weekFrom 0) &&
    fields.agrees .weekYear date.weekYear && weekParts .yearOfWeekCentury (date.weekYear % 100) &&
    fields.agrees .weekOfWeekYear date.weekOfWeekYear && fields.agrees .weekday date.weekday

/-- A day that fields describe, found by the first complete way of naming one. -/
def candidateDate (fields : Fields) (year weekYear : Option Int) : Except Shortfall Date :=
  let found : Option Date → Except Shortfall Date := fun date =>
    match date with
    | some date => .ok date
    | none => .error .impossible
  match year, fields.get? .month, fields.get? .day with
  | some year, some month, some day => found (Date.ofMonthDay? year month.toNat day.toNat)
  | _, _, _ =>
  match year, fields.get? .dayOfYear with
  | some year, some dayOfYear => found (Date.ofDayOfYear? year dayOfYear.toNat)
  | _, _ =>
  match year, fields.get? .sundayWeek, fields.get? .weekday with
  | some year, some week, some weekday => found (Date.ofWeekFrom? 6 year week weekday)
  | _, _, _ =>
  match year, fields.get? .mondayWeek, fields.get? .weekday with
  | some year, some week, some weekday => found (Date.ofWeekFrom? 0 year week weekday)
  | _, _, _ =>
  match weekYear, fields.get? .weekOfWeekYear, fields.get? .weekday with
  | some year, some week, some weekday => found (Date.ofWeekYear? year week weekday)
  | _, _, _ => .error .incomplete

/-- The day that fields describe. -/
def date (fields : Fields) : Except Shortfall Date := do
  let year ← resolveYear (fields.get? .year) (fields.get? .century) (fields.get? .yearOfCentury)
  let weekYear ← resolveYear (fields.get? .weekYear) none (fields.get? .yearOfWeekCentury)
  let date ← fields.candidateDate year weekYear
  if fields.agreesWith date then return date else throw .impossible

/-- The time of day that fields describe.  Seconds may be missing unless there
is a fraction of them. -/
def timeOfDay (fields : Fields) : Except Shortfall TimeOfDay :=
  match fields.get? .halfDay, fields.get? .hourOfHalf, fields.get? .minute with
  | some halfDay, some hour, some minute =>
      let second := (fields.get? .second).getD 0
      let leap := second == 60
      if (fields.get? .second).isNone && (fields.get? .nanosecond).isSome then
        .error .incomplete
      else
        .ok {
          secondOfDay :=
            (((halfDay * 12 + hour) * 60 + minute) * 60 + (if leap then 59 else second)).toNat
          nanoseconds :=
            ((fields.get? .nanosecond).getD 0 + (if leap then 1000000000 else 0)).toNat }
  | _, _, _ => .error .incomplete

/-- Seconds from the start of 1970 to a local day and time of day. -/
def localSeconds (date : Date) (time : TimeOfDay) : Int :=
  date.dayNumber * 86400 + time.secondOfDay

/-- The fields completed by the day and time that lie so many local seconds after
the start of 1970.  A leap second is also the second after the one that its
fields name, and the calendar has to have the day of the second it is given as. -/
def completed (fields : Fields) (given : Int) : Except Shortfall Fields :=
  let leap := fields.get? .second == some 60
  if leap && given % 60 != 59 && given % 60 != 0 then
    .error .impossible
  else
    let seconds := if leap && given % 60 == 0 then given - 1 else given
    let entries : Option (List (Field × Int)) := do
      if (Date.ofDayNumber? (given / 86400)).isNone then none
      let date ← Date.ofDayNumber? (seconds / 86400)
      let second := seconds % 86400
      return (if leap then [] else [(.second, second % 60)]) ++
        [(.year, date.year), (.dayOfYear, (date.dayOfYear : Int)), (.halfDay, second / 43200),
          (.hourOfHalf, second / 3600 % 12), (.minute, second / 60 % 60)]
    match entries.bind fields.putAll? with
    | some fields => .ok fields
    | none => .error .impossible

/-- The day and time of day that fields describe, local to the given offset. -/
def dateAndTime (fields : Fields) (offset : Int) : Except Shortfall (Date × TimeOfDay) :=
  match fields.date, fields.timeOfDay, fields.get? .timestamp with
  | .ok date, .ok time, timestamp =>
      let seconds := localSeconds date time - offset
      let consistent := timestamp.all fun given =>
        given == seconds || (1000000000 ≤ time.nanoseconds && given == seconds + 1)
      if consistent then .ok (date, time) else .error .impossible
  | .error .impossible, _, _ => .error .impossible
  | _, .error .impossible, _ => .error .impossible
  | _, _, none => .error .incomplete
  | _, _, some timestamp => do
      let fields ← fields.completed (timestamp + offset)
      return (← fields.date, ← fields.timeOfDay)

/-- The instant that fields describe.  The offset has to be given, except that
seconds since 1970 count in universal time. -/
def instant? (fields : Fields) : Option Instant := do
  let offset ← match fields.get? .offset, fields.get? .timestamp with
    | some offset, _ => some offset
    | none, some _ => some 0
    | none, none => none
  let (date, time) ← (fields.dateAndTime offset).toOption
  let seconds := localSeconds date time - offset
  if -86400 < offset ∧ offset < 86400 ∧ (Date.ofDayNumber? (seconds / 86400)).isSome then
    return ⟨seconds, time.nanoseconds⟩
  else
    none

end Fields
end Time
end ContentAccess
