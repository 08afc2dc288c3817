import Morphotactics.Pattern.Expression
import Morphotactics.Pattern.Matching

/-! Patterns that are tied to one end of a text. -/
namespace Morphotactics

inductive Side where
  | opening
  | closing
  deriving DecidableEq

namespace Pattern

/-- The pattern that an operand gives at one end. The texts are joined as they are. -/
def anchored (side : Side) (operand : Text) : Text :=
  match side with
  | .closing => "(?:".toList ++ operand ++ ")$".toList
  | .opening => "^(?:".toList ++ operand ++ ")".toList

/-- Patterns start out with no regard to case. -/
def startMode : Mode := ⟨true, false, false, false⟩

def find? (side : Side) (operand text : Text) : Except Fault (Option Found) := do
  let node ← Node.read (anchored side operand)
  return node.search startMode [] text

/-- An operand that cannot be tied to an end of a text, and why. -/
structure Invalid where
  side : Side
  operand : Text
  fault : Fault
  deriving DecidableEq

/-- Numbers out of bounds are reported by themselves, all else together with the operand. -/
def Invalid.message (error : Invalid) : Text :=
  let reason := error.fault.message (anchored error.side error.operand)
  match error.fault with
  | .repetitionTooLarge | .numeral _ => reason
  | _ => "Invalid pattern /".toList ++ error.operand ++ "/: ".toList ++ reason

end Pattern
end Morphotactics
