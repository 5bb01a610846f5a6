import ContentAccess.Layout.Basic
import ContentAccess.Proofs.Time.Directive
import ContentAccess.Proofs.Time.Resolution
import ContentAccess.Time.Timestamp

/-!
# Timestamps as they are written

A timestamp is written as a day and a time of day, perhaps with a fraction of a second, and how
far they are ahead of universal time.  The standard format reads it, or else the common form, and
both give the instant that it names.
-/

namespace ContentAccess
namespace Time

open Text

/-! ## Offsets -/

/-- How far a local time is ahead of universal time, as it is written. -/
inductive WrittenOffset where
  /-- The letter `Z` for no distance at all. -/
  | universal
  /-- Sign, hours, colon and minutes, with a minus sign for a time behind universal time. -/
  | signed (behind : Bool) (hours minutes : Nat)
  deriving DecidableEq, Repr

namespace WrittenOffset

/-- The offset as text. -/
def characters : WrittenOffset → List Char
  | universal => ['Z']
  | signed behind hours minutes => signOf behind :: (padded 2 hours ++ ':' :: padded 2 minutes)

/-- The seconds that local time is ahead. -/
def seconds : WrittenOffset → Int
  | universal => 0
  | signed behind hours minutes =>
      if behind then -(hours * 3600 + minutes * 60) else hours * 3600 + minutes * 60

/-- Hours and minutes are those of a time of day. -/
def WellFormed : WrittenOffset → Prop
  | universal => True
  | signed _ hours minutes => hours ≤ 23 ∧ minutes ≤ 59

theorem WellFormed.seconds_bounds
    {offset : WrittenOffset}
    (wellFormed : offset.WellFormed) :
    -86400 < offset.seconds ∧ offset.seconds < 86400 := by
  cases offset with
  | universal => decide
  | signed behind hours minutes =>
      obtain ⟨inDay, inHour⟩ := wellFormed
      cases behind <;> simp only [seconds, if_true, Bool.false_eq_true, if_false] <;> omega

/-- An offset does not begin like a fraction or its digits. -/
theorem head?_characters (offset : WrittenOffset) :
    offset.characters.head? ≠ some '.' ∧
      ∀ character ∈ offset.characters.head?, character.isDigit = false := by
  cases offset with
  | universal => simp [characters]
  | signed behind hours minutes => cases behind <;> simp [characters, signOf]

end WrittenOffset

/-! ## Timestamps -/

/-- A timestamp as it is written. -/
structure WrittenTimestamp where
  year : Nat
  month : Nat
  day : Nat
  hour : Nat
  minute : Nat
  second : Nat
  /-- The digits of the fraction of the second; there may be none. -/
  fraction : List Char
  offset : WrittenOffset
  deriving DecidableEq, Repr

namespace WrittenTimestamp

/-- A point and the digits of the fraction, or nothing. -/
def fractionCharacters (timestamp : WrittenTimestamp) : List Char :=
  if timestamp.fraction.isEmpty then [] else '.' :: timestamp.fraction

/-- The timestamp as text. -/
def characters (timestamp : WrittenTimestamp) : List Char :=
  padded 4 timestamp.year ++ '-' :: (padded 2 timestamp.month ++ '-' ::
    (padded 2 timestamp.day ++ 'T' :: (padded 2 timestamp.hour ++ ':' ::
      (padded 2 timestamp.minute ++ ':' :: (padded 2 timestamp.second ++
        (timestamp.fractionCharacters ++ timestamp.offset.characters))))))

/-- The timestamp as text. -/
def text (timestamp : WrittenTimestamp) : String :=
  String.ofList timestamp.characters

/-- The calendar has the day, the time is one of a day without leap seconds, and the fraction has
at most nine digits. -/
structure WellFormed (timestamp : WrittenTimestamp) : Prop where
  year : timestamp.year ≤ 9999
  isDay : Date.IsDay timestamp.year timestamp.month timestamp.day
  hour : timestamp.hour ≤ 23
  minute : timestamp.minute ≤ 59
  second : timestamp.second ≤ 59
  digits : ∀ digit ∈ timestamp.fraction, digit.isDigit = true
  precision : timestamp.fraction.length ≤ 9
  offset : timestamp.offset.WellFormed

/-- The instant that the timestamp names. -/
def instant (timestamp : WrittenTimestamp) : Instant where
  seconds := 86400 * Calendar.daysFrom1970 timestamp.year timestamp.month timestamp.day +
    (3600 * timestamp.hour + 60 * timestamp.minute + timestamp.second) - timestamp.offset.seconds
  nanoseconds := 10 ^ (9 - timestamp.fraction.length) *
    Nat.ofDigits 10 (timestamp.fraction.map digitValue).reverse

variable {timestamp : WrittenTimestamp}

/-! ## What directives read -/

/-- Directives for day and time of day, where `part` stands for two digits and `mark` for what
stands between day and time. -/
def form (year : Directive) (part : Quantity → Directive) (mark : Directive) : List Directive :=
  [year, .literal '-', part (.field .month), .literal '-', part (.field .day), mark, part .hour,
    .literal ':', part (.field .minute), .literal ':', part (.field .second), .fraction none]

/-- The values of the fraction. -/
def fractionEntries (timestamp : WrittenTimestamp) : List (Field × Int) :=
  if timestamp.fraction.isEmpty then [] else [(.nanosecond, nanoseconds timestamp.fraction)]

/-- The values of day and time of day. -/
def entries (timestamp : WrittenTimestamp) : List (Field × Int) :=
  (.year, timestamp.year) :: (.month, timestamp.month) :: (.day, timestamp.day) ::
    (.halfDay, timestamp.hour / 12) :: (.hourOfHalf, timestamp.hour % 12) ::
      (.minute, timestamp.minute) :: (.second, timestamp.second) :: timestamp.fractionEntries

theorem WellFormed.take?_fraction
    (wellFormed : timestamp.WellFormed) :
    (Directive.fraction none).take?
        (timestamp.fractionCharacters ++ timestamp.offset.characters) =
      some (timestamp.fractionEntries, timestamp.offset.characters) := by
  obtain ⟨noPoint, noDigit⟩ := timestamp.offset.head?_characters
  unfold fractionCharacters fractionEntries
  split
  · exact Directive.take?_fraction_of_no_point noPoint
  · rename_i someDigit
    have digits : isDigits timestamp.fraction = true := by
      rw [isDigits, Bool.and_eq_true, List.all_eq_true]
      exact ⟨by simpa using someDigit, wellFormed.digits⟩
    exact Directive.take?_fraction_point digits noDigit

theorem entries?_hour
    {hour : Nat}
    (inDay : hour ≤ 23) :
    Quantity.hour.entries? hour = some [(.halfDay, (hour : Int) / 12), (.hourOfHalf, hour % 12)] :=
  if_pos ⟨Int.natCast_nonneg hour, Int.ofNat_le.mpr inDay⟩

/-- The directives read four digits for the year, two for every other number, and the letter
between day and time. -/
structure ReadsParts (year : Directive) (part : Quantity → Directive) (mark : Directive) :
    Prop where
  year : ∀ {value : Nat} {rest : List Char}, value < 10 ^ 4 →
    year.take? (padded 4 value ++ rest) = some ([(.year, (value : Int))], rest)
  part : ∀ {value : Nat} {rest : List Char} (quantity : Quantity), value < 10 ^ 2 →
    (part quantity).take? (padded 2 value ++ rest) = (quantity.entries? value).map (·, rest)
  mark : ∀ rest, mark.take? ('T' :: rest) = some ([], rest)

section Form

variable {year mark : Directive} {part : Quantity → Directive}

/-- All but the offset is read part by part. -/
theorem WellFormed.takeAll?_form
    (wellFormed : timestamp.WellFormed)
    (reads : ReadsParts year part mark) :
    Directive.takeAll? (form year part mark) timestamp.characters =
      some (timestamp.entries, timestamp.offset.characters) := by
  have day := wellFormed.isDay.day_le
  have month := wellFormed.isDay.december
  have hour := wellFormed.hour
  have minute := wellFormed.minute
  have second := wellFormed.second
  have field {value : Nat} {rest : List Char} (target : Field) (bounded : value < 10 ^ 2) :
      (part (.field target)).take? (padded 2 value ++ rest) =
        some ([(target, (value : Int))], rest) :=
    reads.part (.field target) bounded
  have hours {rest : List Char} : (part .hour).take? (padded 2 timestamp.hour ++ rest) =
      some ([(.halfDay, (timestamp.hour : Int) / 12), (.hourOfHalf, timestamp.hour % 12)], rest) := by
    rw [reads.part .hour (by omega), entries?_hour hour]
    rfl
  have fraction : Directive.takeAll? [.fraction none]
      (timestamp.fractionCharacters ++ timestamp.offset.characters) =
        some (timestamp.fractionEntries, timestamp.offset.characters) := by
    rw [Directive.takeAll?, wellFormed.take?_fraction]
    simp [Directive.takeAll?]
  rw [form, characters, entries]
  exact Directive.takeAll?_cons (reads.year (Nat.lt_succ_of_le wellFormed.year)) <|
    Directive.takeAll?_cons (Directive.take?_literal _ _) <|
    Directive.takeAll?_cons (field .month (by omega)) <|
    Directive.takeAll?_cons (Directive.take?_literal _ _) <|
    Directive.takeAll?_cons (field .day (by omega)) <|
    Directive.takeAll?_cons (reads.mark _) <|
    Directive.takeAll?_cons hours <|
    Directive.takeAll?_cons (Directive.take?_literal _ _) <|
    Directive.takeAll?_cons (field .minute (by omega)) <|
    Directive.takeAll?_cons (Directive.take?_literal _ _) <|
    Directive.takeAll?_cons (field .second (by omega)) fraction

end Form

/-! ## The instant that is read -/

/-- The values of all parts of the timestamp. -/
def allEntries (timestamp : WrittenTimestamp) : List (Field × Int) :=
  timestamp.entries ++ [(Field.offset, timestamp.offset.seconds)]

theorem WellFormed.nanoseconds_eq
    (wellFormed : timestamp.WellFormed) :
    nanoseconds timestamp.fraction = timestamp.instant.nanoseconds := by
  rw [Time.nanoseconds_eq wellFormed.precision, decimalValue_eq_ofDigits]
  rfl

theorem WellFormed.nanoseconds_lt
    (wellFormed : timestamp.WellFormed) :
    timestamp.instant.nanoseconds < 10 ^ 9 := by
  have bounded := decimalValue_lt wellFormed.digits
  rw [decimalValue_eq_ofDigits] at bounded
  have whole : 10 ^ (9 - timestamp.fraction.length) * 10 ^ timestamp.fraction.length = 10 ^ 9 := by
    rw [← Nat.pow_add, Nat.sub_add_cancel wellFormed.precision]
  rw [instant, ← whole]
  exact Nat.mul_lt_mul_of_pos_left bounded (Nat.pow_pos (by decide))

/-- The values of a timestamp are collected without a conflict. -/
theorem WellFormed.putAll?_allEntries
    (wellFormed : timestamp.WellFormed) :
    Fields.putAll? [] timestamp.allEntries = some timestamp.allEntries.reverse := by
  have inDay := wellFormed.offset.seconds_bounds
  have fraction := wellFormed.nanoseconds_eq
  have precise := wellFormed.nanoseconds_lt
  have inMonth := wellFormed.isDay.day_le
  obtain ⟨january, december, first, _⟩ := wellFormed.isDay
  have year := wellFormed.year
  have hour := wellFormed.hour
  have minute := wellFormed.minute
  have second := wellFormed.second
  rw [Fields.putAll?_eq_some (fun _ _ => rfl), List.append_nil]
  · unfold allEntries entries fractionEntries
    split <;> simp
  · unfold allEntries entries fractionEntries
    split <;>
      simp only [List.cons_append, List.nil_append, List.forall_mem_cons, Field.range,
        List.not_mem_nil, false_imp_iff, implies_true, and_true] <;>
      omega

theorem WellFormed.namesDay :
    Fields.NamesDay timestamp.allEntries.reverse timestamp.year timestamp.month timestamp.day := by
  unfold allEntries entries fractionEntries
  split
  · exact ⟨rfl, rfl, rfl, by simp [Fields.get?]⟩
  · exact ⟨rfl, rfl, rfl, by simp [Fields.get?]⟩

theorem WellFormed.namesTime
    (wellFormed : timestamp.WellFormed) :
    Fields.NamesTime timestamp.allEntries.reverse timestamp.hour timestamp.minute timestamp.second
      timestamp.instant.nanoseconds := by
  have fraction := wellFormed.nanoseconds_eq
  unfold allEntries entries fractionEntries
  split
  · rename_i noFraction
    rw [List.isEmpty_iff] at noFraction
    refine ⟨rfl, rfl, rfl, rfl, ?_⟩
    rw [← fraction, noFraction]
    rfl
  · exact ⟨rfl, rfl, rfl, rfl, fraction⟩

theorem WellFormed.instant?_allEntries
    (wellFormed : timestamp.WellFormed) :
    Fields.instant? timestamp.allEntries.reverse = some timestamp.instant := by
  have hasOffset : Fields.get? timestamp.allEntries.reverse .offset =
      some timestamp.offset.seconds := by
    rw [allEntries, List.reverse_append]
    rfl
  have noTimestamp : Fields.get? timestamp.allEntries.reverse .timestamp = none := by
    unfold allEntries entries fractionEntries
    split <;> rfl
  have known : Calendar.firstYear < timestamp.year ∧ timestamp.year < Calendar.lastYear := by
    have year := wellFormed.year
    simp only [Calendar.firstYear, Calendar.lastYear]
    omega
  exact Fields.instant?_eq_some namesDay wellFormed.isDay wellFormed.namesTime
    ⟨wellFormed.hour, wellFormed.minute, wellFormed.second⟩ hasOffset noTimestamp
    wellFormed.offset.seconds_bounds known

section Form

variable {year mark : Directive} {part : Quantity → Directive} {style : OffsetStyle}

/-- What is left when all but the offset is read decides. -/
theorem WellFormed.readBy?_eq
    (wellFormed : timestamp.WellFormed)
    (reads : ReadsParts year part mark) :
    readBy? (form year part mark ++ [.offset style]) timestamp.text =
      ((Fields.putAll? [] timestamp.entries).bind fun fields =>
        Directive.readAll? [.offset style] timestamp.offset.characters fields).bind
          Fields.instant? := by
  rw [readBy?, text, String.toList_ofList,
    Directive.readAll?_append (wellFormed.takeAll?_form reads)]

/-- The instant is read where the offset is. -/
theorem WellFormed.readBy?_eq_some
    (wellFormed : timestamp.WellFormed)
    (reads : ReadsParts year part mark)
    (offset : takeOffset? style timestamp.offset.characters =
      some (timestamp.offset.seconds, [])) :
    readBy? (form year part mark ++ [.offset style]) timestamp.text = some timestamp.instant := by
  have last (fields : Fields) :
      Directive.readAll? [.offset style] timestamp.offset.characters fields =
        fields.putAll? [(.offset, timestamp.offset.seconds)] := by
    simp [Directive.readAll?, Directive.take?, offset]
  rw [wellFormed.readBy?_eq reads]
  simp only [last]
  rw [← Fields.putAll?_append]
  change (Fields.putAll? [] timestamp.allEntries).bind Fields.instant? = _
  rw [wellFormed.putAll?_allEntries]
  exact wellFormed.instant?_allEntries

/-- Nothing is read where the offset is not. -/
theorem WellFormed.readBy?_eq_none
    (wellFormed : timestamp.WellFormed)
    (reads : ReadsParts year part mark)
    (noOffset : takeOffset? style timestamp.offset.characters = none) :
    readBy? (form year part mark ++ [.offset style]) timestamp.text = none := by
  have last (fields : Fields) :
      Directive.readAll? [.offset style] timestamp.offset.characters fields = none := by
    simp [Directive.readAll?, Directive.take?, noOffset]
  rw [wellFormed.readBy?_eq reads]
  simp only [last, Option.bind_fun_none, Option.bind_none]

end Form

/-! ## The standard format and the common form -/

theorem readsParts_standard :
    ReadsParts (.signedNumber (.field .year) 4) (fun quantity => .number quantity (some 2))
      (.literal 'T') where
  year bounded := Directive.take?_signedNumber_padded (by decide) bounded (.field .year)
  part quantity bounded := Directive.take?_number_padded (by decide) bounded quantity
  mark := Directive.take?_literal 'T'

theorem readsParts_common :
    ReadsParts (.digits (.field .year) 4) (fun quantity => .digits quantity 2) .dayTimeMark where
  year bounded := Directive.take?_digits_padded (by decide) bounded (.field .year)
  part quantity bounded := Directive.take?_digits_padded (by decide) bounded quantity
  mark := Directive.take?_dayTimeMark

theorem readFormat?_standard :
    Directive.readFormat? Layout.standard.dateFormat =
      some (form (.signedNumber (.field .year) 4) (fun quantity => .number quantity (some 2))
        (.literal 'T') ++ [.offset .numeric]) := by
  decide +kernel

/-- The standard format reads timestamps with a sign in the offset, and the common form those
with the letter `Z`. -/
theorem WellFormed.read?_eq
    (wellFormed : timestamp.WellFormed) :
    Instant.read? Layout.standard.dateFormat timestamp.text = some timestamp.instant := by
  rw [Instant.read?, readFormat?_standard, Option.bind_some]
  cases offset : timestamp.offset with
  | universal =>
      have notNumeric : takeOffset? .numeric timestamp.offset.characters = none := by
        rw [offset]
        decide
      have strict : takeOffset? .strict timestamp.offset.characters =
          some (timestamp.offset.seconds, []) := by
        rw [offset]
        decide
      have read := wellFormed.readBy?_eq_some readsParts_common strict
      rw [wellFormed.readBy?_eq_none readsParts_standard notNumeric, Option.none_or]
      exact read
  | signed behind hours minutes =>
      have inTime := wellFormed.offset
      rw [offset] at inTime
      have numeric : takeOffset? .numeric timestamp.offset.characters =
          some (timestamp.offset.seconds, []) := by
        rw [offset, WrittenOffset.characters, ← List.append_nil (padded 2 minutes)]
        exact takeOffset?_numeric inTime.1 inTime.2 behind
      rw [wellFormed.readBy?_eq_some readsParts_standard numeric, Option.some_or]

end WrittenTimestamp
end Time
end ContentAccess
