import Morphotactics.Letter
import Morphotactics.Pattern

/-! Conditions on a stem, and the changes of a stem for which one holds. -/
namespace Morphotactics

inductive ConditionKind where
  | always
  | endsWith
  | startsWith
  | isVowel
  | isConsonant
  deriving DecidableEq

def ConditionKind.name : ConditionKind → Text
  | .always => "NONE".toList
  | .endsWith => "ENDS_WITH".toList
  | .startsWith => "STARTS_WITH".toList
  | .isVowel => "IS_VOWEL".toList
  | .isConsonant => "IS_CONSONANT".toList

/-- A guard on the stem a suffix attaches to, with the change that the stem undergoes. An empty
pattern or replacement is none. -/
structure Condition where
  kind : ConditionKind := .always
  characters : Text := []
  pattern : Text := []
  cut : Int := 0
  replacement : Text := []
  deriving DecidableEq

namespace Condition

def usesPattern (c : Condition) : Bool :=
  !c.pattern.isEmpty

def replaces (c : Condition) : Bool :=
  !c.replacement.isEmpty

def transforms (c : Condition) : Bool :=
  c.replaces || 0 < c.cut

/-- Patterns are tied to the end of the stem only where its end is asked for. -/
def side (c : Condition) : Side :=
  if c.kind = .endsWith then .closing else .opening

def find? (c : Condition) (stem : Text) : Except Pattern.Invalid (Option Pattern.Found) :=
  match Pattern.find? c.side c.pattern stem with
  | .ok found => .ok found
  | .error fault => .error ⟨c.side, c.pattern, fault⟩

/-- Whether the suffix may attach to a stem. Only the empty condition holds of the empty stem. -/
def holds (c : Condition) (stem : Text) : Except Pattern.Invalid Bool :=
  match c.kind, stem.head?, stem.getLast? with
  | .always, _, _ => .ok true
  | .endsWith, _, some last =>
    if c.usesPattern then return (← c.find? stem).isSome else .ok (c.characters.elem last)
  | .startsWith, some first, _ =>
    if c.usesPattern then return (← c.find? stem).isSome else .ok (c.characters.elem first)
  | .isVowel, _, some last => .ok (Morphotactics.isVowel last)
  | .isConsonant, _, some last => .ok (Morphotactics.isConsonant last)
  | _, _, _ => .ok false

/-- The stem after its change. A replacement takes the place of the match of a pattern and has no
effect without one; a cut has none on a stem that is shorter. -/
def apply (c : Condition) (stem : Text) : Except Pattern.Invalid Text :=
  if c.replaces then
    if c.usesPattern && (c.kind = .endsWith || c.kind = .startsWith) then do
      match ← c.find? stem with
      | some found => return found.before ++ c.replacement ++ found.after
      | none => return stem
    else .ok stem
  else if 0 < c.cut ∧ c.cut ≤ stem.length then .ok (stem.take (stem.length - c.cut.toNat))
  else .ok stem

end Condition
end Morphotactics
