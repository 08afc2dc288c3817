import Morphotactics.Text

/-! Names of characters, written down one after the other for as long as the code points follow each
other. -/
namespace Morphotactics

/-- A small letter stands before every name. It tells how many words the name has in common with
the one before it, none for `a`, and the other words of the name come behind it. Blanks around these
do not count. -/
structure NameRun where
  first : Nat
  names : String

namespace NameRun

/-- The names as they are written: a number of words to keep, and the words behind these. -/
def entries (run : NameRun) : List (Nat × List Text) :=
  (run.names.toList.foldr prepend ([], [])).2
where
  prepend (c : Char) : Text × List (Nat × List Text) → Text × List (Nat × List Text)
    | (behind, entries) =>
      if c.isLower then ([], (c.toNat - 'a'.toNat, Text.splitOn ' ' (Text.strip behind)) :: entries)
      else (c :: behind, entries)

/-- The words of the names, given those of the name before them. -/
def complete (before : List Text) : List (Nat × List Text) → List (List Text)
  | [] => []
  | (kept, behind) :: rest =>
    let name := before.take kept ++ behind
    name :: complete name rest

def find? (name : List Text) (run : NameRun) : Option Nat :=
  ((complete [] run.entries).idxOf? name).map (run.first + ·)

example : (NameRun.mk 0x61 "aLATIN SMALL LETTER AdBdC").find?
    (Text.splitOn ' ' "LATIN SMALL LETTER B".toList) = some 0x62 := by decide

end NameRun

end Morphotactics
