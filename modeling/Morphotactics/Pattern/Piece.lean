import Morphotactics.Pattern.Fault

/-! Patterns cut into characters and escapes. -/
namespace Morphotactics.Pattern

/-- One character of a pattern, or a backslash together with the character after it. -/
structure Piece where
  position : Nat
  escaped : Bool
  char : Char
  deriving DecidableEq

def Piece.text (p : Piece) : Text :=
  if p.escaped then ['\\', p.char] else [p.char]

def Piece.isBare (p : Piece) (c : Char) : Bool :=
  !p.escaped && p.char = c

/-- Cuts a pattern, the first character of which has the given position. -/
def pieces (position : Nat) : Text → Except Fault (List Piece)
  | [] => .ok []
  | [c] =>
    if c = '\\' then .error (.positioned .strayBackslash position)
    else .ok [⟨position, false, c⟩]
  | c :: d :: rest =>
    if c = '\\' then return ⟨position, true, d⟩ :: (← pieces (position + 2) rest)
    else return ⟨position, false, c⟩ :: (← pieces (position + 1) (d :: rest))

end Morphotactics.Pattern
