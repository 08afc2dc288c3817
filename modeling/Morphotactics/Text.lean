/-! Texts as lists of code points, sets of code points given by ranges, and the few operations that
are shared by every part. -/
namespace Morphotactics

/-- Closed ranges of code points, ascending and apart from each other. -/
abbrev CodeRanges := List (Nat × Nat)

/-- Membership; the search stops at the first range that begins above the code point. -/
def CodeRanges.has : CodeRanges → Nat → Bool
  | [], _ => false
  | (first, last) :: rest, n =>
    if n < first then false else n ≤ last || CodeRanges.has rest n

/-- The separators of every kind, together with the control characters that separate text. -/
def blankRanges : CodeRanges := [
  (0x9, 0xd), (0x1c, 0x20), (0x85, 0x85), (0xa0, 0xa0), (0x1680, 0x1680), (0x2000, 0x200a),
  (0x2028, 0x2029), (0x202f, 0x202f), (0x205f, 0x205f), (0x3000, 0x3000)]

/-- A character that separates words and lines without being seen. -/
def isBlank (c : Char) : Bool :=
  blankRanges.has c.toNat

/-- A text is the list of its code points. -/
abbrev Text := List Char

namespace Text

def ofNat (n : Nat) : Text :=
  Nat.toDigits 10 n

def ofInt : Int → Text
  | .ofNat n => ofNat n
  | .negSucc n => '-' :: ofNat (n + 1)

/-- The lower-case hexadecimal spelling, padded with zeros to the given width. -/
def hex (width n : Nat) : Text :=
  let digits := Nat.toDigits 16 n
  List.replicate (width - digits.length) '0' ++ digits

/-- The pieces between the occurrences of a character. -/
def splitOn (mark : Char) : Text → List Text
  | [] => [[]]
  | c :: rest =>
    if c = mark then [] :: splitOn mark rest
    else match splitOn mark rest with
      | [] => [[c]]
      | piece :: pieces => (c :: piece) :: pieces

/-- The text without the blanks at its two ends. -/
def strip (text : Text) : Text :=
  ((text.dropWhile isBlank).reverse.dropWhile isBlank).reverse

/-- What is left of a text once it is cut before an ending, if it has that ending. -/
def dropEnding? (ending text : Text) : Option Text :=
  if ending.isSuffixOf text then some (text.take (text.length - ending.length)) else none

end Text
end Morphotactics
