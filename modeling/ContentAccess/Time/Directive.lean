import ContentAccess.Text.Blank
import ContentAccess.Text.Numeral
import ContentAccess.Text.Split
import ContentAccess.Time.Field

/-!
# Directives

A format is a list of directives, and each directive reads one part of a
timestamp from the front of a text.  A format text spells directives by a
percent sign; other characters stand for themselves, and white space for any
amount of white space.
-/

namespace ContentAccess
namespace Time

/-- What a run of digits stands for. -/
inductive Quantity where
  | field (target : Field)
  /-- The hour of the day, from 0 to 23. -/
  | hour
  /-- The hour of half a day, from 1 to 12. -/
  | clockHour
  /-- The day of the week, where 0 is Sunday. -/
  | weekdayFromSunday
  /-- The day of the week, where 1 is Monday. -/
  | weekdayFromMonday
  deriving DecidableEq, Repr

/-- How the distance from universal time is written. -/
inductive OffsetStyle where
  /-- White space, sign, hours and minutes, with any separators between them. -/
  | numeric
  /-- As `numeric`, but `Z` stands for none, and minutes may be missing. -/
  | short
  /-- As `numeric`, but `Z` and `UTC` stand for none. -/
  | universal
  /-- `Z`, or sign, hours, colon and minutes. -/
  | strict
  deriving DecidableEq, Repr

/-- One part of a format. -/
inductive Directive where
  | literal (character : Char)
  /-- Any amount of white space. -/
  | space
  /-- White space, then digits, at most as many as `width` says. -/
  | number (quantity : Quantity) (width : Option Nat)
  /-- As `number`; after a sign there may be any number of digits. -/
  | signedNumber (quantity : Quantity) (width : Nat)
  /-- Exactly so many digits. -/
  | digits (quantity : Quantity) (width : Nat)
  /-- The name of a month, of three letters or, if `long`, also in full. -/
  | monthName (long : Bool)
  /-- The name of a day of the week, of three letters or, if `long`, also in full. -/
  | weekdayName (long : Bool)
  /-- One of `am` and `pm`. -/
  | halfDayName
  /-- Nothing, or a point and the digits of a fraction of a second, exactly as
  many as `width` says. -/
  | fraction (width : Option Nat)
  /-- Exactly so many digits of a fraction of a second. -/
  | fractionDigits (width : Nat)
  /-- Everything up to white space. -/
  | zoneName
  | offset (style : OffsetStyle)
  /-- The letter `T` or one blank between day and time. -/
  | dayTimeMark
  deriving DecidableEq, Repr

namespace Quantity

/-- The fields that a value sets; none if there is no such value. -/
def entries? (value : Int) : Quantity → Option (List (Field × Int))
  | field target => some [(target, value)]
  | hour =>
      if 0 ≤ value ∧ value ≤ 23 then
        some [(.halfDay, value / 12), (.hourOfHalf, value % 12)]
      else
        none
  | clockHour => if 1 ≤ value ∧ value ≤ 12 then some [(.hourOfHalf, value % 12)] else none
  | weekdayFromSunday =>
      if 0 ≤ value ∧ value ≤ 6 then some [(.weekday, (value + 6) % 7)] else none
  | weekdayFromMonday => if 1 ≤ value ∧ value ≤ 7 then some [(.weekday, value - 1)] else none

end Quantity

/-- The names of the months. -/
def monthNames : List String :=
  ["january", "february", "march", "april", "may", "june", "july", "august", "september",
   "october", "november", "december"]

/-- The names of the days of the week, from Monday on. -/
def weekdayNames : List String :=
  ["monday", "tuesday", "wednesday", "thursday", "friday", "saturday", "sunday"]

/-- What follows `beginning`, when the text starts with it in letters of any case. -/
def stripLetters? (beginning text : List Char) : Option (List Char) :=
  if Text.lowerCase (text.take beginning.length) = beginning then
    some (text.drop beginning.length)
  else
    none

/-- The position in `names` of the name at the front of the text, by its first
three letters, and what follows.  With `long` the other letters of the name are
taken off too if they stand there. -/
def takeName? (names : List String) (long : Bool) (text : List Char) :
    Option (Nat × List Char) :=
  names.zipIdx.findSome? fun (name, index) => do
    let rest ← stripLetters? (name.toList.take 3) text
    let other := if long then stripLetters? (name.toList.drop 3) rest else none
    return (index, other.getD rest)

/-- The digits at the front of a text, at most as many as `width` says, and what
follows. -/
def takeDigits (width : Option Nat) (text : List Char) : List Char × List Char :=
  let run := (width.elim text text.take).takeWhile Char.isDigit
  (run, text.drop run.length)

/-- Reads at least one digit at the front of a text. -/
def takeNumber? (width : Option Nat) (text : List Char) : Option (Int × List Char) :=
  let (run, rest) := takeDigits width text
  if run.isEmpty then none else some (Text.decimalValue run, rest)

/-- Reads exactly `width` digits at the front of a text. -/
def takeExactly? (width : Nat) (text : List Char) : Option (List Char × List Char) :=
  let (run, rest) := takeDigits (some width) text
  if run.length = width then some (run, rest) else none

/-- The nanoseconds that the digits of a fraction stand for; digits after the
ninth do not count. -/
def nanoseconds (fraction : List Char) : Int :=
  Text.decimalValue ((fraction ++ List.replicate 9 '0').take 9)

/-- Reads the minutes of an offset. -/
def takeMinutes? (text : List Char) : Option (Nat × List Char) := do
  let (run, rest) ← takeExactly? 2 text
  let minutes := Text.decimalValue run
  if minutes < 60 then some (minutes, rest) else none

/-- The distance from universal time that is written as zero by letters. -/
def takeZone? (style : OffsetStyle) (text : List Char) : Option (List Char) :=
  match style with
  | .numeric => none
  | .short | .strict => stripLetters? ['z'] text
  | .universal => (stripLetters? ['u', 't', 'c'] text).or (stripLetters? ['z'] text)

/-- The sign of an offset, negative or not. -/
def takeSign? : List Char → Option (Bool × List Char)
  | '+' :: rest => some (false, rest)
  | '-' :: rest => some (true, rest)
  | '\u2212' :: rest => some (true, rest)
  | _ => none

/-- Takes off what stands between the hours and the minutes of an offset. -/
def takeOffsetSeparator? (style : OffsetStyle) (text : List Char) : Option (List Char) :=
  match style with
  | .strict => Text.stripStart? [':'] text
  | _ => some (text.dropWhile fun character => character == ':' || Text.isBlank character)

/-- Reads an offset, in seconds. -/
def takeOffset? (style : OffsetStyle) (text : List Char) : Option (Int × List Char) := do
  let text := if style = .strict then text else Text.trimStart text
  match takeZone? style text with
  | some rest => return (0, rest)
  | none =>
      let (negative, text) ← takeSign? text
      let (hours, text) ← takeExactly? 2 text
      let text ← takeOffsetSeparator? style text
      let (minutes, text) ←
        if style = .short ∧ text.isEmpty then some (0, text) else takeMinutes? text
      let seconds : Int := Text.decimalValue hours * 3600 + minutes * 60
      return (if negative then -seconds else seconds, text)

namespace Directive

/-- Reads the part of a timestamp that a directive describes: the values it
gives, and what follows. -/
def take? (directive : Directive) (text : List Char) :
    Option (List (Field × Int) × List Char) :=
  match directive with
  | literal character => (Text.stripStart? [character] text).map ([], ·)
  | space => some ([], Text.trimStart text)
  | number quantity width => do
      let (value, rest) ← takeNumber? width (Text.trimStart text)
      return (← quantity.entries? value, rest)
  | signedNumber quantity width => do
      let (value, rest) ← match Text.trimStart text with
        | '-' :: rest => (takeNumber? none rest).map fun (value, rest) => (-value, rest)
        | '+' :: rest => takeNumber? none rest
        | text => takeNumber? (some width) text
      return (← quantity.entries? value, rest)
  | digits quantity width => do
      let (run, rest) ← takeExactly? width text
      return (← quantity.entries? (Text.decimalValue run), rest)
  | monthName long => do
      let (index, rest) ← takeName? monthNames long text
      return ([(.month, index + 1)], rest)
  | weekdayName long => do
      let (index, rest) ← takeName? weekdayNames long text
      return ([(.weekday, index)], rest)
  | halfDayName =>
      match stripLetters? ['a', 'm'] text, stripLetters? ['p', 'm'] text with
      | some rest, _ => some ([(.halfDay, 0)], rest)
      | none, some rest => some ([(.halfDay, 1)], rest)
      | none, none => none
  | fraction width =>
      match text with
      | '.' :: rest =>
          let (run, rest) := takeDigits width rest
          if run.length < width.getD 1 then none
          else some ([(.nanosecond, nanoseconds run)], rest)
      | _ => some ([], text)
  | fractionDigits width => do
      let (run, rest) ← takeExactly? width text
      return ([(.nanosecond, nanoseconds run)], rest)
  | zoneName => some ([], text.dropWhile fun character => !Text.isBlank character)
  | offset style => do
      let (seconds, rest) ← takeOffset? style text
      return ([(.offset, seconds)], rest)
  | dayTimeMark =>
      match text with
      | 'T' :: rest | 't' :: rest | ' ' :: rest => some ([], rest)
      | _ => none

/-- Reads a whole text by a list of directives. -/
def readAll? : List Directive → List Char → Fields → Option Fields
  | [], text, fields => if text.isEmpty then some fields else none
  | directive :: others, text, fields => do
      let (entries, rest) ← directive.take? text
      readAll? others rest (← fields.putAll? entries)

/-- Hour, minute and second, with colons between them. -/
def clock : List Directive :=
  [.number .hour (some 2), .literal ':', .number (.field .minute) (some 2), .literal ':',
   .number (.field .second) (some 2)]

/-- The directives that stand for one number, by their letter. -/
def numeric? : Char → Option Directive
  | 'Y' => some (.signedNumber (.field .year) 4)
  | 'C' => some (.number (.field .century) (some 2))
  | 'y' => some (.number (.field .yearOfCentury) (some 2))
  | 'G' => some (.signedNumber (.field .weekYear) 4)
  | 'g' => some (.number (.field .yearOfWeekCentury) (some 2))
  | 'q' => some (.number (.field .quarter) (some 1))
  | 'm' => some (.number (.field .month) (some 2))
  | 'd' | 'e' => some (.number (.field .day) (some 2))
  | 'j' => some (.number (.field .dayOfYear) (some 3))
  | 'U' => some (.number (.field .sundayWeek) (some 2))
  | 'W' => some (.number (.field .mondayWeek) (some 2))
  | 'V' => some (.number (.field .weekOfWeekYear) (some 2))
  | 'u' => some (.number .weekdayFromMonday (some 1))
  | 'w' => some (.number .weekdayFromSunday (some 1))
  | 'H' | 'k' => some (.number .hour (some 2))
  | 'I' | 'l' => some (.number .clockHour (some 2))
  | 'M' => some (.number (.field .minute) (some 2))
  | 'S' => some (.number (.field .second) (some 2))
  | 'f' => some (.number (.field .nanosecond) (some 9))
  | 's' => some (.number (.field .timestamp) none)
  | _ => none

/-- The directives of a letter that is no single number. -/
def lettered? : Char → Option (List Directive)
  | '%' => some [.literal '%']
  | 'n' | 't' => some [.space]
  | 'b' | 'h' => some [.monthName false]
  | 'B' => some [.monthName true]
  | 'a' => some [.weekdayName false]
  | 'A' => some [.weekdayName true]
  | 'p' | 'P' => some [.halfDayName]
  | 'z' => some [.offset .numeric]
  | 'Z' => some [.zoneName]
  | 'F' =>
      some [.signedNumber (.field .year) 4, .literal '-', .number (.field .month) (some 2),
        .literal '-', .number (.field .day) (some 2)]
  | 'D' | 'x' =>
      some [.number (.field .month) (some 2), .literal '/', .number (.field .day) (some 2),
        .literal '/', .number (.field .yearOfCentury) (some 2)]
  | 'v' =>
      some [.number (.field .day) (some 2), .literal '-', .monthName false, .literal '-',
        .signedNumber (.field .year) 4]
  | 'R' => some [.number .hour (some 2), .literal ':', .number (.field .minute) (some 2)]
  | 'T' | 'X' => some clock
  | 'r' =>
      some [.number .clockHour (some 2), .literal ':', .number (.field .minute) (some 2),
        .literal ':', .number (.field .second) (some 2), .space, .halfDayName]
  | 'c' =>
      some ([.weekdayName false, .space, .monthName false, .space, .number (.field .day) (some 2),
        .space] ++ clock ++ [.space, .signedNumber (.field .year) 4])
  | '+' =>
      some [.signedNumber (.field .year) 4, .space, .literal '-', .number (.field .month) (some 2),
        .space, .literal '-', .number (.field .day) (some 2), .dayTimeMark,
        .number .hour (some 2), .space, .literal ':', .number (.field .minute) (some 2), .space,
        .literal ':', .number (.field .second) (some 2), .fraction none, .space, .offset .universal]
  | _ => none

/-- The directives that the characters after a percent sign spell, and how many
characters spell them. -/
def spelled? : List Char → Option (List Directive × Nat)
  | '.' :: 'f' :: _ => some ([.fraction none], 2)
  | '.' :: digit :: 'f' :: _ =>
      if digit = '3' ∨ digit = '6' ∨ digit = '9' then
        some ([.fraction (some (digit.toNat - '0'.toNat))], 3)
      else
        none
  | ':' :: ':' :: ':' :: 'z' :: _ => some ([.offset .numeric], 4)
  | ':' :: ':' :: 'z' :: _ => some ([.offset .numeric], 3)
  | ':' :: 'z' :: _ => some ([.offset .numeric], 2)
  | '#' :: 'z' :: _ => some ([.offset .short], 2)
  | mark :: letter :: _ =>
      if mark = '-' ∨ mark = '0' ∨ mark = '_' then
        (numeric? letter).map fun directive => ([directive], 2)
      else if letter = 'f' ∧ (mark = '3' ∨ mark = '6' ∨ mark = '9') then
        some ([.fractionDigits (mark.toNat - '0'.toNat)], 2)
      else
        (((numeric? mark).map fun directive => [directive]).or (lettered? mark)).map (·, 1)
  | [letter] =>
      (((numeric? letter).map fun directive => [directive]).or (lettered? letter)).map (·, 1)
  | [] => none

/-- Reads a format text, after the given number of characters. -/
def readFormatAfter? : Nat → List Char → Option (List Directive)
  | _, [] => some []
  | skipped + 1, _ :: rest => readFormatAfter? skipped rest
  | 0, '%' :: rest => do
      let (directives, length) ← spelled? rest
      return directives ++ (← readFormatAfter? length rest)
  | 0, character :: rest => do
      let others ← readFormatAfter? 0 rest
      return (if Text.isBlank character then .space else .literal character) :: others

/-- Reads a format text. -/
def readFormat? (format : String) : Option (List Directive) :=
  readFormatAfter? 0 format.toList

end Directive
end Time
end ContentAccess
