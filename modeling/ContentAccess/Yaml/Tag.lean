import ContentAccess.Json.Reader
import ContentAccess.Yaml.Source

/-!
# YAML tags

A tag says what kind of value a node holds.  It is an address, written in full
between angle brackets or behind a handle that stands for its first part.
-/

namespace ContentAccess
namespace Yaml

/-- A tag in full, as octets. -/
structure Tag where
  octets : List UInt8
  deriving DecidableEq, Repr

/-- A tag as it is written. -/
structure WrittenTag where
  /-- What stands for the first part, unless the tag is written in full. -/
  handle : Option String
  /-- The octets of the rest. -/
  rest : List UInt8
  deriving DecidableEq, Repr

/-- The octets of a text in UTF-8. -/
def octetsOf (text : String) : List UInt8 :=
  text.toUTF8.toList

namespace Tag

/-- The tag that is a mark alone; it leaves the kind of a scalar open. -/
def bare : Tag :=
  ⟨octetsOf "!"⟩

/-- A tag of the common vocabulary. -/
def common (name : String) : Tag :=
  ⟨octetsOf "tag:yaml.org,2002:" ++ octetsOf name⟩

/-- The tag starts with the mark of tags that only one application knows. -/
def isMarked (tag : Tag) : Bool :=
  tag.octets.head? == some 0x21

/-- The tag is known to one application only and can be shown as text. -/
def isLocal (tag : Tag) : Bool :=
  tag.isMarked && (ByteArray.mk tag.octets.tail.toArray).validateUTF8

end Tag

/-- The character may stand in an address; in full addresses more may. -/
def isAddressCharacter (inFull : Bool) (character : Char) : Bool :=
  isNameCharacter character || ";/?:@&=+$.!~*'()%".toList.contains character ||
    (inFull && ",[]".toList.contains character)

/-- How many octets of a character follow this one in UTF-8, if so many followed
the one before it. -/
def octetsAfter? (following octet : Nat) : Option Nat :=
  match following with
  | following + 1 => if octet / 0x40 == 0b10 then some following else none
  | 0 =>
      if octet < 0x80 then some 0
      else if octet / 0x20 == 0b110 then some 1
      else if octet / 0x10 == 0b1110 then some 2
      else if octet / 0x08 == 0b11110 then some 3
      else none

/-- Takes the octets of an address off the front.  A percent sign and two
hexadecimal digits stand for an octet; as many of them as `following` says have
to come first, to end a character. -/
def takeAddress? (inFull : Bool) (following : Nat) : Source → Option (List UInt8 × Source)
  | [] => if following = 0 then some ([], []) else none
  | placed :: rest =>
      if placed.character == '%' then
        match rest with
        | high :: low :: rest => do
            let octet ← Json.hexValue? [high.character, low.character]
            let following ← octetsAfter? following octet
            let (octets, after) ← takeAddress? inFull following rest
            return (UInt8.ofNat octet :: octets, after)
        | _ => none
      else if following ≠ 0 then
        none
      else if isAddressCharacter inFull placed.character then do
        let (octets, after) ← takeAddress? inFull 0 rest
        return (UInt8.ofNat placed.character.toNat :: octets, after)
      else
        some ([], placed :: rest)

/-- Takes an address that is not empty off the front.  Only the octets before the
first zero count. -/
def takeSomeAddress? (inFull : Bool) (text : Source) : Option (List UInt8 × Source) := do
  let (octets, rest) ← takeAddress? inFull 0 text
  if octets.isEmpty then none
  return (octets.takeWhile (· != 0), rest)

/-- Reads a tag after the mark at its front. -/
def takeTagBody? (text : Source) : Option (WrittenTag × Source) :=
  if startsWith '<' text then do
    let (octets, rest) ← takeSomeAddress? true (text.drop 1)
    if !startsWith '>' rest then none
    return (⟨none, octets⟩, rest.drop 1)
  else
    let (name, rest) := takeName text
    if startsWith '!' rest then do
      let (octets, rest) ← takeSomeAddress? false (rest.drop 1)
      return (⟨some ("!" ++ name ++ "!"), octets⟩, rest)
    else do
      let (written, rest) ← takeAddress? false 0 text
      let octets := written.takeWhile (· != 0)
      return (if octets.isEmpty then ⟨none, Tag.bare.octets⟩ else ⟨some "!", octets⟩, rest)

/-- Reads a tag after the mark at its front, up to a gap or, inside brackets, a
comma. -/
def takeTag? (inFlow : Bool) (text : Source) : Option (WrittenTag × Source) := do
  let (tag, rest) ← takeTagBody? text
  if startsGap rest || (inFlow && startsWith ',' rest) then some (tag, rest) else none

end Yaml
end ContentAccess
