import ContentAccess.Json.Reader
import ContentAccess.Text.Numeral
import ContentAccess.Yaml.Tag

/-!
# What scalars mean

A plain scalar is null, a boolean, a number, or else a text; another scalar is a
text.  A tag may settle the question in another way.
-/

namespace ContentAccess
namespace Yaml

/-- The scalar stands for null. -/
def isNull (text : String) : Bool :=
  ["", "~", "null", "Null", "NULL"].contains text

/-- The scalar is a boolean. -/
def isBoolean (text : String) : Bool :=
  ["true", "True", "TRUE", "false", "False", "FALSE"].contains text

/-- The text without one plus sign at the front. -/
def withoutPlus : List Char → List Char
  | '+' :: rest => rest
  | text => text

/-- The text starts with a sign. -/
def startsWithSign (text : List Char) : Bool :=
  text.head?.any fun character => character == '+' || character == '-'

/-- The text is a zero and further digits, with or without a sign; this is a
text although it looks like a number. -/
def isZeroPadded (text : List Char) : Bool :=
  let digits := if startsWithSign text then text.tail else text
  digits.head? == some '0' && 1 < digits.length && digits.all Char.isDigit

/-- The value of digits to a base. -/
def digitsValue? (base : Nat) (digits : List Char) : Option Nat :=
  if digits.isEmpty then none
  else digits.foldlM (fun value digit =>
    ((Json.hexDigit? digit).filter (· < base)).map (base * value + ·)) 0

/-- The text is an integer with a base mark, which fits into 128 bits. -/
def isBasedInteger (text : List Char) : Bool :=
  let below (limit : Nat) (base : Nat) (digits : List Char) : Bool :=
    (digitsValue? base digits).any (· < limit)
  match withoutPlus text with
  | '0' :: 'x' :: digits => below (Nat.pow 2 128) 16 digits
  | '0' :: 'o' :: digits => below (Nat.pow 2 128) 8 digits
  | '0' :: 'b' :: digits => below (Nat.pow 2 128) 2 digits
  | _ =>
      match text with
      | '-' :: '0' :: 'x' :: digits => below (Nat.pow 2 127 + 1) 16 digits
      | '-' :: '0' :: 'o' :: digits => below (Nat.pow 2 127 + 1) 8 digits
      | '-' :: '0' :: 'b' :: digits => below (Nat.pow 2 127 + 1) 2 digits
      | _ => false

/-- A decimal fraction: `digits` times ten to the power of `exponent`. -/
structure DecimalFraction where
  digits : Nat
  exponent : Int

namespace DecimalFraction

/-- The exponent of a decimal fraction, after its digits. -/
def exponent? : List Char → Option Int
  | [] => some 0
  | mark :: text => if mark = 'e' ∨ mark = 'E' then Text.integer? text else none

/-- Reads a decimal fraction without sign: digits around an optional point, and
an optional exponent. -/
def read? (text : List Char) : Option DecimalFraction := do
  let whole := text.takeWhile Char.isDigit
  let rest := text.dropWhile Char.isDigit
  let (fraction, rest) := match rest with
    | '.' :: rest => (rest.takeWhile Char.isDigit, rest.dropWhile Char.isDigit)
    | _ => ([], rest)
  if whole.isEmpty && fraction.isEmpty then none
  let exponent ← exponent? rest
  return ⟨Text.decimalValue (whole ++ fraction), exponent - fraction.length⟩

/-- The fraction is below the least number that is rounded to infinity in
binary numbers of double precision. -/
def isFinite (fraction : DecimalFraction) : Bool :=
  let limit := Nat.pow 2 1024 - Nat.pow 2 970
  let magnitude := (Nat.toDigits 10 fraction.digits).length + fraction.exponent
  if fraction.digits == 0 || magnitude < 300 then true
  else if 400 < magnitude then false
  else if 0 ≤ fraction.exponent then fraction.digits * Nat.pow 10 fraction.exponent.toNat < limit
  else fraction.digits < limit * Nat.pow 10 (-fraction.exponent).toNat

end DecimalFraction

/-- The scalar names infinity or the lack of a number. -/
def isSpecialNumber (text : String) : Bool :=
  [".inf", ".Inf", ".INF", "+.inf", "+.Inf", "+.INF", "-.inf", "-.Inf", "-.INF", ".nan", ".NaN",
   ".NAN"].contains text

/-- The text is a finite number in decimal notation. -/
def isDecimalNumber (text : List Char) : Bool :=
  let unsigned := if startsWithSign text then text.tail else text
  (DecimalFraction.read? unsigned).any DecimalFraction.isFinite

/-- The scalar is a number. -/
def isNumber (text : String) : Bool :=
  isBasedInteger text.toList || isSpecialNumber text ||
    (!isZeroPadded text.toList && isDecimalNumber text.toList)

/-- A plain scalar of this text is a text. -/
def isText (text : String) : Bool :=
  !isNull text && !isBoolean text && !isNumber text

/-- The common tags of scalars that are no texts. -/
def valueTags : List Tag :=
  ["bool", "int", "float", "null"].map Tag.common

/-- The scalar is a text.  Local tags stand for values of their own, and other
tags but the common ones of values leave the scalar a text. -/
def meansText (tag : Option Tag) (isPlain : Bool) (text : String) : Bool :=
  match tag with
  | none => !isPlain || isText text
  | some tag =>
      if tag.isLocal then false
      else if tag.isMarked then !isPlain || isText text
      else !valueTags.contains tag

/-- The text of a scalar, or none if it is plain and null.  A plain scalar that
has the tag of null must be null and must not be empty. -/
def optionalText? (tag : Option Tag) (isPlain : Bool) (text : String) : Option (Option String) :=
  if !isPlain then some (some text)
  else if tag.isNone then some (if isNull text then none else some text)
  else if tag != some (.common "null") then some (some text)
  else if isNull text && !text.isEmpty then some none
  else none

end Yaml
end ContentAccess
