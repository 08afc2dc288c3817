import Morphotactics.Pattern.Node
import Morphotactics.Pattern.Piece

/-! The state in which regular expressions are read, and how pieces are taken off their front. -/
namespace Morphotactics.Pattern

/-- What is known in the middle of a pattern: the pieces still to read, and the groups so far. -/
structure Reading where
  rest : List Piece
  finish : Nat
  /-- The widths of the groups, in order; none for those that are still open. -/
  widths : List (Option Width) := []
  names : List (Text × Nat) := []
  /-- Inside a look-behind, the number of groups before it. -/
  behind : Option Nat := none
  /-- Groups that a condition asks for, with the first place that does. -/
  awaited : List (Nat × Nat) := []

abbrev Reader := StateT Reading (Except Fault)

namespace Reader

def peek : Reader (Option Piece) :=
  return (← get).rest.head?

def next : Reader (Option Piece) :=
  modifyGet fun s => (s.rest.head?, { s with rest := s.rest.tail })

def tell : Reader Nat := do
  let s ← get
  return (s.rest.head?.map (·.position)).getD s.finish

/-- Fails at the given number of characters before the next piece. -/
def fail {α : Type} (problem : Problem) (back : Nat) : Reader α := do
  throw (.positioned problem ((← tell) - back))

def accept (c : Char) : Reader Bool := do
  match ← peek with
  | some p =>
    if p.isBare c then
      let _ ← next
      return true
    else return false
  | none => return false

def takeWhile (isMember : Char → Bool) : Nat → Reader Text
  | 0 => return []
  | n + 1 => do
    match ← peek with
    | some p =>
      if !p.escaped && isMember p.char then
        let _ ← next
        return p.char :: (← takeWhile isMember n)
      else return []
    | none => return []

def digits : Reader Text := do
  takeWhile Char.isDigit (← get).rest.length

/-- Takes pieces up to a mark, and the mark; `what` is read in this way and cannot be empty. -/
def takeUntil (mark : Char) (what : String) : Reader Text := do
  go ((← get).rest.length + 1) []
where
  go : Nat → Text → Reader Text
    | 0, name => return name
    | n + 1, name => do
      match ← next with
      | none =>
        if name.isEmpty then fail (.missing what.toList) 0
        else fail (.unterminatedName mark) name.length
      | some p =>
        if p.isBare mark then
          if name.isEmpty then fail (.missing what.toList) 1 else return name
        else go n (name ++ p.text)

end Reader

end Morphotactics.Pattern
