import Morphotactics.Proofs.Condition
import Morphotactics.Proofs.Grammar.Declared

/-! Grammars whose patterns and set names are sound, and those that change no stem. -/
namespace Morphotactics.Grammar

/-- All patterns of the grammar are sound. -/
def Compiles (g : Grammar) : Prop :=
  ∀ owned ∈ g.suffixes, owned.2.condition.Compiles

/-- The set that an element refers to, if any, is declared. -/
def Resolves (g : Grammar) (e : Element) : Prop :=
  ∀ name, e.reference? = some name → ∃ set, g.suffixSet name = .ok set

/-- Every set that a rule refers to is declared. -/
def Closed (g : Grammar) : Prop :=
  ∀ rule ∈ g.allRules, ∀ alternative ∈ rule.alternatives, ∀ e ∈ alternative, g.Resolves e

/-- No condition of the grammar changes a stem, and all patterns are sound. -/
structure Plain (g : Grammar) : Prop where
  keeps : ∀ owned ∈ g.suffixes, owned.2.condition.transforms = false
  compiles : g.Compiles

end Morphotactics.Grammar
