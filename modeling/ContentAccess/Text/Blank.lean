/-!
# White space

The characters with the Unicode property `White_Space`, and trimming by them.
-/

namespace ContentAccess
namespace Text

/-- The character has the Unicode property `White_Space`. -/
def isBlank (character : Char) : Bool :=
  let code := character.toNat
  (0x09 ≤ code && code ≤ 0x0d) || code == 0x20 || code == 0x85 || code == 0xa0 ||
    code == 0x1680 || (0x2000 ≤ code && code ≤ 0x200a) || code == 0x2028 || code == 0x2029 ||
    code == 0x202f || code == 0x205f || code == 0x3000

/-- The text without leading white space. -/
def trimStart (text : List Char) : List Char :=
  text.dropWhile isBlank

/-- The text without white space at either end. -/
def trimmed (text : List Char) : List Char :=
  (trimStart (trimStart text).reverse).reverse

end Text
end ContentAccess
