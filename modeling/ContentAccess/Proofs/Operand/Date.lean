import ContentAccess.Operand
import ContentAccess.Proofs.Comparison
import ContentAccess.Proofs.Time.Instant
import ContentAccess.Proofs.Time.Timestamp

/-!
# Comparing dates

Timestamps in the form of the standard layout are compared as the instants that they name, first
by their seconds and then by their nanoseconds.  At which offset a timestamp is written, and how
many zeros end its fraction, makes no difference.
-/

namespace ContentAccess

namespace Time
namespace WrittenTimestamp

/-! ## Other spellings of one instant -/

/-- The timestamp with more zeros at the end of its fraction. -/
def withZeros (timestamp : WrittenTimestamp) (count : Nat) : WrittenTimestamp :=
  { timestamp with fraction := timestamp.fraction ++ List.replicate count '0' }

variable {timestamp : WrittenTimestamp}

theorem WellFormed.withZeros
    {count : Nat}
    (wellFormed : timestamp.WellFormed)
    (room : timestamp.fraction.length + count ≤ 9) :
    (timestamp.withZeros count).WellFormed where
  year := wellFormed.year
  isDay := wellFormed.isDay
  hour := wellFormed.hour
  minute := wellFormed.minute
  second := wellFormed.second
  digits := by
    intro digit member
    rcases List.mem_append.mp member with before | zero
    · exact wellFormed.digits digit before
    · rw [List.eq_of_mem_replicate zero]
      decide
  precision := by
    change (timestamp.fraction ++ List.replicate count '0').length ≤ 9
    rw [List.length_append, List.length_replicate]
    exact room
  offset := wellFormed.offset

/-- Zeros at the end of a fraction do not change the instant. -/
theorem instant_withZeros
    {count : Nat}
    (room : timestamp.fraction.length + count ≤ 9) :
    (timestamp.withZeros count).instant = timestamp.instant := by
  have power : 10 ^ (9 - (timestamp.fraction.length + count)) * 10 ^ count =
      10 ^ (9 - timestamp.fraction.length) := by
    rw [← Nat.pow_add]
    congr 1
    omega
  have scaled : (timestamp.withZeros count).instant.nanoseconds =
      timestamp.instant.nanoseconds := by
    simp only [instant, withZeros, ← Text.decimalValue_eq_ofDigits, List.length_append,
      List.length_replicate, Text.decimalValue_append, Text.decimalValue_replicate_zero,
      Nat.add_zero]
    rw [← Nat.mul_assoc, power]
  exact congrArg (Instant.mk timestamp.instant.seconds) scaled

/-- Every offset can spell the instant of a timestamp, unless the local year gets out of four
digits. -/
theorem WellFormed.exists_respelled
    (wellFormed : timestamp.WellFormed)
    {offset : WrittenOffset}
    (offsetFormed : offset.WellFormed)
    (inYears : Calendar.yearStart 0 ≤ (timestamp.instant.seconds + offset.seconds) / 86400 ∧
      (timestamp.instant.seconds + offset.seconds) / 86400 < Calendar.yearStart 10000) :
    ∃ other : WrittenTimestamp, other.WellFormed ∧ other.offset = offset ∧
      other.instant = timestamp.instant := by
  generalize number_eq : (timestamp.instant.seconds + offset.seconds) / 86400 = number at inYears
  obtain ⟨month, day, isDay, counted⟩ := Date.exists_daysFrom1970_eq number
  have fourDigits : 0 ≤ Calendar.yearOfDay number ∧ Calendar.yearOfDay number ≤ 9999 :=
    Calendar.yearOfDay_within inYears.1 inYears.2
  obtain ⟨year, year_eq⟩ := Int.eq_ofNat_of_zero_le fourDigits.1
  rw [year_eq] at isDay counted fourDigits
  -- The rest of the local seconds is the time of day.
  generalize rest_eq : (timestamp.instant.seconds + offset.seconds) % 86400 = rest
  let other : WrittenTimestamp := {
    year, month, day, offset
    hour := (rest / 3600).toNat
    minute := (rest / 60 % 60).toNat
    second := (rest % 60).toNat
    fraction := timestamp.fraction }
  have formed : other.WellFormed := {
    year := by change year ≤ 9999; omega
    isDay
    hour := by change (rest / 3600).toNat ≤ 23; omega
    minute := by change (rest / 60 % 60).toNat ≤ 59; omega
    second := by change (rest % 60).toNat ≤ 59; omega
    digits := wellFormed.digits
    precision := wellFormed.precision
    offset := offsetFormed }
  have seconds : other.instant.seconds = timestamp.instant.seconds := by
    change 86400 * Calendar.daysFrom1970 year month day + (3600 * ((rest / 3600).toNat : Int) +
      60 * ((rest / 60 % 60).toNat : Int) + ((rest % 60).toNat : Int)) - offset.seconds = _
    omega
  exact ⟨other, formed, rfl, congrArg (Instant.mk · timestamp.instant.nanoseconds) seconds⟩

end WrittenTimestamp
end Time

/-! ## Comparisons -/

namespace Comparison

open Time

variable {comparison : Comparison}

theorem relates_key_iff
    {first second : Instant} :
    comparison.Relates first.key second.key ↔ comparison.Relates first second := by
  cases comparison with
  | equal => exact Instant.key_injective.eq_iff
  | atLeast => exact Iff.rfl
  | atMost => exact Iff.rfl
  | greater => exact Iff.rfl
  | less => exact Iff.rfl

/-- No timestamp is mistaken for the operand that stands for the instant of the decision. -/
theorem sameLetters_text_todayOperand (timestamp : WrittenTimestamp) :
    Text.sameLetters timestamp.text todayOperand = false := by
  have dash : '-' ∈ timestamp.characters := by simp [WrittenTimestamp.characters]
  rw [Text.sameLetters, WrittenTimestamp.text, String.toList_ofList, beq_eq_false_iff_ne]
  intro same
  have kept : '-'.toLower ∈ Text.lowerCase timestamp.characters := List.mem_map_of_mem dash
  rw [same] at kept
  exact absurd kept (by decide)

theorem operandInstant?_text
    {timestamp : WrittenTimestamp}
    (wellFormed : timestamp.WellFormed)
    (now : Instant) :
    operandInstant? Layout.standard.dateFormat now timestamp.text = some timestamp.instant := by
  rw [operandInstant?, sameLetters_text_todayOperand, if_neg Bool.false_ne_true,
    wellFormed.read?_eq]

theorem holdsForDates_text_iff
    {operand value : WrittenTimestamp}
    (operandFormed : operand.WellFormed)
    (valueFormed : value.WellFormed)
    {now : Instant} :
    comparison.holdsForDates Layout.standard.dateFormat now operand.text value.text = true ↔
      comparison.Relates operand.instant.key value.instant.key := by
  rw [holdsForDates, operandInstant?_text operandFormed, valueFormed.read?_eq, relates_key_iff,
    ← holds_compare_iff, ← Instant.order_eq_compare]

/-- Only the instant that a timestamp names counts. -/
theorem holdsForDates_of_same_instant
    {timestamp other : WrittenTimestamp}
    (wellFormed : timestamp.WellFormed)
    (otherFormed : other.WellFormed)
    (same : other.instant = timestamp.instant)
    (now : Instant)
    (facing : String) :
    comparison.holdsForDates Layout.standard.dateFormat now other.text facing =
        comparison.holdsForDates Layout.standard.dateFormat now timestamp.text facing ∧
      comparison.holdsForDates Layout.standard.dateFormat now facing other.text =
        comparison.holdsForDates Layout.standard.dateFormat now facing timestamp.text := by
  simp only [holdsForDates, operandInstant?_text wellFormed, operandInstant?_text otherFormed,
    wellFormed.read?_eq, otherFormed.read?_eq, same, and_self]

/-- A timestamp in the form of the standard layout is read as the instant that it names, and two
of them are compared by the seconds and then by the nanoseconds of their instants, whatever the
instant of the decision.  So another spelling of an instant changes no comparison.  There is one
at every offset, as long as the local year has four digits, and with every number of zeros that
the fraction has room for. -/
theorem dates_compared_as_instants :
    (∀ timestamp : WrittenTimestamp, timestamp.WellFormed →
      Instant.read? Layout.standard.dateFormat timestamp.text = some timestamp.instant) ∧
    (∀ (comparison : Comparison) (operand value : WrittenTimestamp),
      operand.WellFormed → value.WellFormed → ∀ now,
        (comparison.holdsForDates Layout.standard.dateFormat now operand.text value.text = true ↔
          comparison.Relates (toLex (operand.instant.seconds, operand.instant.nanoseconds))
            (toLex (value.instant.seconds, value.instant.nanoseconds)))) ∧
    (∀ timestamp other : WrittenTimestamp, timestamp.WellFormed → other.WellFormed →
      other.instant = timestamp.instant → ∀ (comparison : Comparison) (now : Instant) facing,
        comparison.holdsForDates Layout.standard.dateFormat now other.text facing =
          comparison.holdsForDates Layout.standard.dateFormat now timestamp.text facing ∧
        comparison.holdsForDates Layout.standard.dateFormat now facing other.text =
          comparison.holdsForDates Layout.standard.dateFormat now facing timestamp.text) ∧
    (∀ (timestamp : WrittenTimestamp) (offset : WrittenOffset),
      timestamp.WellFormed → offset.WellFormed →
      Calendar.yearStart 0 ≤ (timestamp.instant.seconds + offset.seconds) / 86400 →
      (timestamp.instant.seconds + offset.seconds) / 86400 < Calendar.yearStart 10000 →
        ∃ other : WrittenTimestamp, other.WellFormed ∧ other.offset = offset ∧
          other.instant = timestamp.instant) ∧
    (∀ (timestamp : WrittenTimestamp) (count : Nat), timestamp.WellFormed →
      timestamp.fraction.length + count ≤ 9 →
        (timestamp.withZeros count).WellFormed ∧
        (timestamp.withZeros count).instant = timestamp.instant) :=
  ⟨fun _ wellFormed => wellFormed.read?_eq,
    fun _ _ _ operandFormed valueFormed _ => holdsForDates_text_iff operandFormed valueFormed,
    fun _ _ wellFormed otherFormed same _ now facing =>
      holdsForDates_of_same_instant wellFormed otherFormed same now facing,
    fun _ _ wellFormed offsetFormed notBefore notAfter =>
      wellFormed.exists_respelled offsetFormed ⟨notBefore, notAfter⟩,
    fun _ _ wellFormed room => ⟨wellFormed.withZeros room, WrittenTimestamp.instant_withZeros room⟩⟩

/-- Half past one on the first of March, two hours ahead, is half past eleven on the leap day
before in universal time, and it has a spelling behind universal time too. -/
theorem dates_compared_as_instants_across_leap_day :
    Instant.read? Layout.standard.dateFormat "2024-03-01T01:30:00.5+02:00" =
        some ⟨1709249400, 500000000⟩ ∧
      (∀ now, equal.holdsForDates Layout.standard.dateFormat now "2024-03-01T01:30:00.5+02:00"
        "2024-02-29T23:30:00.500Z" = true) ∧
      (∀ now facing, less.holdsForDates Layout.standard.dateFormat now
          "2024-02-29T23:30:00.500Z" facing =
        less.holdsForDates Layout.standard.dateFormat now "2024-03-01T01:30:00.5+02:00" facing) ∧
      ∃ other : WrittenTimestamp, other.WellFormed ∧ other.offset = .signed true 9 30 ∧
        other.instant = ⟨1709249400, 500000000⟩ := by
  obtain ⟨reads, compares, respelled, everywhere, padding⟩ := dates_compared_as_instants
  let ahead : WrittenTimestamp := ⟨2024, 3, 1, 1, 30, 0, ['5'], .signed false 2 0⟩
  let universal : WrittenTimestamp := ⟨2024, 2, 29, 23, 30, 0, ['5'], .universal⟩
  have aheadFormed : ahead.WellFormed :=
    ⟨by decide, ⟨by decide, by decide, by decide, by decide⟩, by decide, by decide, by decide,
      List.forall_mem_singleton.mpr rfl, by decide, ⟨by decide, by decide⟩⟩
  have universalFormed : universal.WellFormed :=
    ⟨by decide, ⟨by decide, by decide, by decide, by decide⟩, by decide, by decide, by decide,
      List.forall_mem_singleton.mpr rfl, by decide, trivial⟩
  have aheadText : ahead.text = "2024-03-01T01:30:00.5+02:00" := by decide +kernel
  have paddedText : (universal.withZeros 2).text = "2024-02-29T23:30:00.500Z" := by decide +kernel
  have aheadInstant : ahead.instant = ⟨1709249400, 500000000⟩ := by decide +kernel
  have universalInstant : universal.instant = ⟨1709249400, 500000000⟩ := by decide +kernel
  obtain ⟨paddedFormed, paddedInstant⟩ := padding universal 2 universalFormed (by decide)
  have same : (universal.withZeros 2).instant = ahead.instant :=
    paddedInstant.trans (universalInstant.trans aheadInstant.symm)
  rw [← aheadText, ← paddedText, ← aheadInstant]
  refine ⟨reads ahead aheadFormed, fun now => ?_, fun now facing => ?_, ?_⟩
  · apply (compares equal ahead _ aheadFormed paddedFormed now).mpr
    rw [same]
    rfl
  · exact (respelled ahead _ aheadFormed paddedFormed same less now facing).1
  · exact everywhere ahead (.signed true 9 30) aheadFormed ⟨by decide, by decide⟩
      (by decide +kernel) (by decide +kernel)

end Comparison
end ContentAccess
