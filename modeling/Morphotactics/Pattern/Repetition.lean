import Morphotactics.Pattern.Reader

/-! Reading of repetitions. -/
namespace Morphotactics.Pattern

open Reader

/-- The bound above which a number of repetitions is refused. -/
def maxRepetitions : Nat := 4294967295

def readCount (spelled : Text) : Reader Nat := do
  match readInteger spelled with
  | .ok count =>
    if maxRepetitions ≤ count.toNat then throw .repetitionTooLarge else return count.toNat
  | .error fault => throw (.numeral fault)

/-- What an opening brace begins: bounds for the item before it, or nothing but itself. -/
def readBounds : Reader (Option (Nat × Option Nat)) := do
  let saved ← get
  let here ← tell
  if ((← peek).map (·.isBare '}')).getD false then return none
  let low ← digits
  let high ← if ← accept ',' then digits else pure low
  if ← accept '}' then
    let least ← if low.isEmpty then pure 0 else readCount low
    let most ← if high.isEmpty then pure none else some <$> readCount high
    if (most.map (decide <| · < least)).getD false then
      throw (.positioned .leastAboveMost here)
    return some (least, most)
  else
    set saved
    return none

/-- Puts a repetition in place of the last item; the items stand in reverse order. -/
def readRepeat (start : Nat) (least : Nat) (most : Option Nat) (items : List Node) :
    Reader (List Node) := do
  match items with
  | [] | .anchor _ :: _ => throw (.positioned .nothingToRepeat start)
  | .repeated _ _ _ _ :: _ => throw (.positioned .repeatedRepeat start)
  | item :: before =>
    let lazy ← accept '?'
    let possessive ← if lazy then pure false else accept '+'
    let greed := if lazy then Greed.lazy else if possessive then .possessive else .greedy
    return .repeated greed least most (.ofItems item.unpacked) :: before

end Morphotactics.Pattern
