/-!
# Splitting text

Text is handled as a list of characters.  The functions here cut it at a
separator, remove a known beginning or an unwanted ending, and put pieces
together again.
-/

namespace ContentAccess
namespace Text

/-- The text before and after the first occurrence of `separator`. -/
def splitFirst? (separator : Char) : List Char → Option (List Char × List Char)
  | [] => none
  | character :: rest =>
      if character = separator then
        some ([], rest)
      else
        (splitFirst? separator rest).map fun (before, after) => (character :: before, after)

/-- The pieces between the occurrences of `separator`; there is at least one. -/
def pieces (separator : Char) : List Char → List (List Char)
  | [] => [[]]
  | character :: rest =>
      if character = separator then
        [] :: pieces separator rest
      else
        match pieces separator rest with
        | [] => [[character]]
        | piece :: others => (character :: piece) :: others

/-- The pieces one after another with `separator` between neighbours. -/
def joined (separator : Char) : List (List Char) → List Char
  | [] => []
  | [piece] => piece
  | piece :: next :: others => piece ++ separator :: joined separator (next :: others)

/-- What follows `beginning`, when the text starts with it. -/
def stripStart? : List Char → List Char → Option (List Char)
  | [], text => some text
  | _ :: _, [] => none
  | expected :: beginning, character :: rest =>
      if expected = character then stripStart? beginning rest else none

/-- The list without its longest ending of elements that satisfy `unwanted`. -/
def dropEnding (unwanted : α → Bool) : List α → List α
  | [] => []
  | element :: rest =>
      match dropEnding unwanted rest with
      | [] => if unwanted element then [] else [element]
      | kept => element :: kept

/-- The text in lower case, as far as ASCII letters go. -/
def lowerCase (text : List Char) : List Char :=
  text.map Char.toLower

/-- Two texts are the same up to the case of ASCII letters. -/
def sameLetters (first second : String) : Bool :=
  lowerCase first.toList == lowerCase second.toList

@[simp] theorem splitFirst?_nil (separator : Char) :
    splitFirst? separator [] = none := rfl

@[simp] theorem splitFirst?_separator (separator : Char) (rest : List Char) :
    splitFirst? separator (separator :: rest) = some ([], rest) := by
  simp [splitFirst?]

@[simp] theorem pieces_nil (separator : Char) : pieces separator [] = [[]] := rfl

@[simp] theorem pieces_separator (separator : Char) (rest : List Char) :
    pieces separator (separator :: rest) = [] :: pieces separator rest := by
  simp [pieces]

@[simp] theorem stripStart?_nil (text : List Char) : stripStart? [] text = some text := rfl

/-- A text that begins with `beginning` gives back exactly what follows. -/
@[simp] theorem stripStart?_append (beginning text : List Char) :
    stripStart? beginning (beginning ++ text) = some text := by
  induction beginning with
  | nil => rfl
  | cons character beginning step => simp [stripStart?, step]

/-- Splitting into pieces never gives the empty list. -/
theorem pieces_ne_nil (separator : Char) (text : List Char) : pieces separator text ≠ [] := by
  cases text with
  | nil => simp
  | cons character rest =>
      unfold pieces
      split
      · simp
      · split <;> simp

end Text
end ContentAccess
