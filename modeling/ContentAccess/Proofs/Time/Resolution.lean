import ContentAccess.Proofs.Time.Calendar
import ContentAccess.Proofs.Time.Field
import ContentAccess.Time.Resolution

/-!
# Fields that name an instant

Fields that give year, month and day and nothing else of a day name that day, and fields that
give hour, minute and second name that time of day.  With an offset of less than a day they name
the instant that local day and time have in universal time.
-/

namespace ContentAccess
namespace Time
namespace Fields

/-! ## Days -/

/-- The fields give year, month and day, and nothing else that could describe a day. -/
structure NamesDay (fields : Fields) (year : Int) (month day : Nat) : Prop where
  year : fields.get? .year = some year
  month : fields.get? .month = some (month : Int)
  day : fields.get? .day = some (day : Int)
  nothingElse : ∀ field ∈ [Field.century, .yearOfCentury, .quarter, .dayOfYear, .sundayWeek,
    .mondayWeek, .weekYear, .yearOfWeekCentury, .weekOfWeekYear, .weekday],
      fields.get? field = none

variable {fields : Fields} {year : Int} {month day : Nat}

theorem NamesDay.agreesWith_eq_true
    (names : fields.NamesDay year month day)
    (isDay : Date.IsDay year month day) :
    fields.agreesWith ⟨year, Calendar.daysBeforeMonth year month + day⟩ = true := by
  have missing := names.nothingElse
  simp only [List.forall_mem_cons] at missing
  obtain ⟨century, yearOfCentury, quarter, dayOfYear, sundayWeek, mondayWeek, weekYear,
    yearOfWeekCentury, weekOfWeekYear, weekday, _⟩ := missing
  have yearAgrees : fields.agrees .year year = true := agrees_of_some names.year
  have monthAgrees := agrees_of_some names.month
  have dayAgrees := agrees_of_some names.day
  simp only [agreesWith, isDay.month_eq, isDay.day_eq, yearAgrees, monthAgrees, dayAgrees, century,
    yearOfCentury, yearOfWeekCentury, agrees_of_none quarter, agrees_of_none dayOfYear,
    agrees_of_none sundayWeek, agrees_of_none mondayWeek, agrees_of_none weekYear,
    agrees_of_none weekOfWeekYear, agrees_of_none weekday, Option.all_none, Bool.and_self]

theorem candidateDate_eq
    {month day : Int}
    {date : Date}
    (hasMonth : fields.get? .month = some month)
    (hasDay : fields.get? .day = some day)
    (weekYear : Option Int)
    (found : Date.ofMonthDay? year month.toNat day.toNat = some date) :
    fields.candidateDate (some year) weekYear = .ok date := by
  unfold candidateDate
  simp only [hasMonth, hasDay]
  rw [found]

/-- Year, month and day name the day that the calendar has for them. -/
theorem NamesDay.date_eq
    (names : fields.NamesDay year month day)
    (isDay : Date.IsDay year month day)
    (notBefore : Calendar.firstYear ≤ year)
    (notAfter : year ≤ Calendar.lastYear) :
    fields.date = .ok ⟨year, Calendar.daysBeforeMonth year month + day⟩ := by
  have agrees := names.agreesWith_eq_true isDay
  have missing := names.nothingElse
  simp only [List.forall_mem_cons] at missing
  obtain ⟨century, yearOfCentury, _, _, _, _, weekYear, yearOfWeekCentury, _⟩ := missing
  have candidate := candidateDate_eq names.month names.day none
    (isDay.ofMonthDay?_eq notBefore notAfter)
  rw [date, names.year, century, yearOfCentury, weekYear, yearOfWeekCentury]
  simp only [resolveYear, bind, Except.bind, candidate, agrees, if_true]
  rfl

/-! ## Times of day -/

/-- The fields give hour, minute and second and perhaps a fraction of the second. -/
structure NamesTime (fields : Fields) (hour minute second nanoseconds : Nat) : Prop where
  halfDay : fields.get? .halfDay = some ((hour / 12 : Nat) : Int)
  hourOfHalf : fields.get? .hourOfHalf = some ((hour % 12 : Nat) : Int)
  minute : fields.get? .minute = some (minute : Int)
  second : fields.get? .second = some (second : Int)
  nanosecond : (fields.get? .nanosecond).getD 0 = (nanoseconds : Int)

variable {hour minute second nanoseconds : Nat}

theorem NamesTime.timeOfDay_eq
    (names : fields.NamesTime hour minute second nanoseconds)
    (noLeap : second ≤ 59) :
    fields.timeOfDay = .ok ⟨3600 * hour + 60 * minute + second, nanoseconds⟩ := by
  have ordinary : ((second : Int) == 60) = false := by
    rw [beq_eq_false_iff_ne]
    omega
  simp only [timeOfDay, names.halfDay, names.hourOfHalf, names.minute, names.second,
    names.nanosecond, Option.getD_some, ordinary, Option.isNone_some, Bool.false_and,
    Bool.false_eq_true, if_false, Int.add_zero, Int.toNat_natCast, Except.ok.injEq,
    TimeOfDay.mk.injEq, and_true]
  omega

/-! ## Instants -/

/-- A local day and time of day, at an offset of less than a day, name the instant that they are
in universal time. -/
theorem instant?_eq_some
    {offset : Int}
    (namesDay : fields.NamesDay year month day)
    (isDay : Date.IsDay year month day)
    (namesTime : fields.NamesTime hour minute second nanoseconds)
    (inDay : hour ≤ 23 ∧ minute ≤ 59 ∧ second ≤ 59)
    (hasOffset : fields.get? .offset = some offset)
    (noTimestamp : fields.get? .timestamp = none)
    (smallOffset : -86400 < offset ∧ offset < 86400)
    (known : Calendar.firstYear < year ∧ year < Calendar.lastYear) :
    fields.instant? = some ⟨86400 * Calendar.daysFrom1970 year month day +
      (3600 * hour + 60 * minute + second) - offset, nanoseconds⟩ := by
  have date := namesDay.date_eq isDay (Int.le_of_lt known.1) (Int.le_of_lt known.2)
  have time := namesTime.timeOfDay_eq inDay.2.2
  have seconds : localSeconds ⟨year, Calendar.daysBeforeMonth year month + day⟩
      ⟨3600 * hour + 60 * minute + second, nanoseconds⟩ =
        86400 * Calendar.daysFrom1970 year month day +
          (3600 * hour + 60 * minute + second) := by
    rw [localSeconds, isDay.dayNumber_eq]
    push_cast
    omega
  have day : (Date.ofDayNumber? ((86400 * Calendar.daysFrom1970 year month day +
      (3600 * hour + 60 * minute + second) - offset) / 86400)).isSome = true :=
    isDay.isSome_ofDayNumber? known (by omega)
  simp only [instant?, hasOffset, noTimestamp, dateAndTime, date, time, Option.all_none, if_true,
    bind, Option.bind, Except.toOption, seconds]
  rw [if_pos ⟨smallOffset.1, smallOffset.2, day⟩]
  rfl

end Fields
end Time
end ContentAccess
