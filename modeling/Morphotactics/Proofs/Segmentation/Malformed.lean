import Mathlib
import Morphotactics.Proofs.Segmentation.Ending
import Morphotactics.Proofs.Segmentation.Inventory
import Morphotactics.Proofs.Segmentation.Refusing

/-! Which searches a malformed pattern fails: those that come, by stripping, upon a text that ends
with its suffix. Of all others it makes no difference. -/
namespace Morphotactics

/-- The error is reported together with the pattern, and not as a number out of bounds. -/
structure Pattern.Invalid.NamesPattern (error : Pattern.Invalid) : Prop where
  counts : error.fault ≠ .repetitionTooLarge
  reads : ∀ fault, error.fault ≠ .numeral fault

theorem Pattern.Invalid.NamesPattern.message {error : Pattern.Invalid} (h : error.NamesPattern) :
    error.message = "Invalid pattern /".toList ++ error.operand ++ "/: ".toList ++
      error.fault.message (anchored error.side error.operand) := by
  obtain ⟨counts, reads⟩ := h
  unfold Invalid.message
  split
  · exact absurd ‹_› counts
  · exact absurd ‹_› (reads _)
  · rfl

section Reachability

/-- A suffix of the grammar is stripped from a text that is long enough for that, and leaves a
root. -/
def Grammar.StripsTo (g : Grammar) (text root : Text) : Prop :=
  4 ≤ text.length ∧ ∃ owned ∈ g.suffixes, owned.2.suffix ≠ [] ∧
    ∃ stem, owned.2.Strips text stem root

/-- The text is left of the word when suffixes have been stripped from it, or none. -/
def Grammar.Leaves (g : Grammar) : (word text : Text) → Prop :=
  Relation.ReflTransGen g.StripsTo

variable {g : Grammar} {word text root : Text} {error : Pattern.Invalid}

end Reachability

section Raising

variable {g : Grammar} {word : Text} {error : Pattern.Invalid}

end Raising

section Congruence

/-! Two grammars are searched in the same way where the search takes the same steps in both. -/

variable {g g' : Grammar} {P : Remainder → Prop} (hnext : ∀ r, P r → r.next g = r.next g')
  (hbelow : ∀ r, P r → ∀ children, r.next g = .ok children → ∀ child ∈ children, P child)

include hnext hbelow

theorem Follows.congr {rs : List Remainder} {outcome : Except Pattern.Invalid (List Remainder)}
    (h : Follows g rs outcome) (hrs : ∀ r ∈ rs, P r) : Follows g' rs outcome := by
  induction h with
  | nil => exact .nil
  | fault next =>
    obtain ⟨hr, -⟩ := List.forall_mem_cons.mp hrs
    exact .fault (hnext _ hr ▸ next)
  | faultBelow next _ below =>
    obtain ⟨hr, -⟩ := List.forall_mem_cons.mp hrs
    exact .faultBelow (hnext _ hr ▸ next) (below (hbelow _ hr _ next))
  | faultBeside next _ _ below beside =>
    obtain ⟨hr, hrest⟩ := List.forall_mem_cons.mp hrs
    exact .faultBeside (hnext _ hr ▸ next) (below (hbelow _ hr _ next)) (beside hrest)
  | cons next _ _ below beside =>
    obtain ⟨hr, hrest⟩ := List.forall_mem_cons.mp hrs
    exact .cons (hnext _ hr ▸ next) (below (hbelow _ hr _ next)) (beside hrest)

end Congruence

section Removal

variable {g : Grammar} {word : Text}

end Removal

namespace Unclosed

def accusative : SuffixDefinition where
  suffix := ['n', 'i']
  description := "accusative".toList

def plural : SuffixDefinition where
  suffix := "lar".toList
  description := "plural".toList
  condition := { kind := .endsWith, pattern := "[unclosed".toList }

def ending : SuffixSet where
  name := ['s']
  description := []
  suffixes := .ofList [(accusative.suffix, accusative), (plural.suffix, plural)]

/-- A grammar with one sound suffix, and one whose pattern has a character set without an end. -/
def grammar : Grammar :=
  .ofDeclarations 1 [.set ['s'] [] [accusative, plural]]

theorem grammar_declared : grammar.Declared := by
  have hread : declarationsOf? 1
      ("SUFFIX s \x7b ni: \"accusative\", ".toList ++
        "lar: \"plural\" WHEN ENDSWITH /[unclosed/ \x7d".toList) =
          some [.set ['s'] [] [accusative, plural]] := by
    cbv
  exact Grammar.declared_of_declarationsOf? hread

theorem grammar_suffixes : grammar.suffixes = [(ending, accusative), (ending, plural)] :=
  rfl

def fault : Pattern.Invalid where
  side := .closing
  operand := "[unclosed".toList
  fault := .positioned .unterminatedSet 3

theorem ends (word : Text) : analyzeAll grammar none word ≠ .error .endless := by
  refine analyzeAll_ends_of_short_replacements ?_ word
  rw [grammar_suffixes, List.forall_mem_cons, List.forall_mem_singleton]
  refine ⟨fun hreplaces => ?_, fun hreplaces => ?_⟩ <;> cases hreplaces

end Unclosed

namespace Overlarge

/-- A suffix with a pattern that asks for more repetitions than there can be. -/
def ending : SuffixDefinition where
  suffix := ['a']
  description := ['x']
  condition := { kind := .endsWith, pattern := "k\x7b4294967295\x7d".toList }

def grammar : Grammar :=
  .ofDeclarations 1 [.set ['s'] [] [ending]]

theorem grammar_declared : grammar.Declared := by
  have hread : declarationsOf? 1
      "SUFFIX s \x7b a: \"x\" WHEN ENDSWITH /k\x7b4294967295\x7d/ \x7d".toList =
        some [.set ['s'] [] [ending]] := by
    cbv
  exact Grammar.declared_of_declarationsOf? hread

def fault : Pattern.Invalid where
  side := .closing
  operand := "k\x7b4294967295\x7d".toList
  fault := .repetitionTooLarge

end Overlarge

end Morphotactics
