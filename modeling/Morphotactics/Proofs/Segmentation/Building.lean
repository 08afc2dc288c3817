import Morphotactics.Proofs.Grammar.Sound
import Morphotactics.Proofs.Segmentation.Enumeration
import Morphotactics.Proofs.Segmentation.Refusing

/-! Grammars that change no stem: what can be stripped from a form is what can be attached to a
root, one suffix after the other. -/
namespace Morphotactics

/-- The suffixes attach to a root one after the other, the first of the list first, and make up a
form with it. -/
inductive Grammar.Builds (g : Grammar) : Text → List Grammar.OwnedSuffix → Text → Prop
  | nil {root : Text} : g.Builds root [] root
  | cons {root form : Text} {owned : Grammar.OwnedSuffix} {chain : List Grammar.OwnedSuffix}
      (declared : owned ∈ g.suffixes) (holds : owned.2.condition.holds root = .ok true)
      (outer : g.Builds (root ++ owned.2.suffix) chain form) : g.Builds root (owned :: chain) form

variable {g : Grammar}

namespace Grammar.Plain

theorem root_eq_stem (hp : g.Plain) {owned : Grammar.OwnedSuffix} (h : owned ∈ g.suffixes)
    {text stem root : Text} (hs : owned.2.Strips text stem root) : root = stem := by
  have happly := Condition.apply_of_not_transforms (hp.keeps owned h) stem
  exact Except.ok.inj (hs.applies.symm.trans happly)

theorem settles (hp : g.Plain) (text : Text) : g.Settles text := by
  -- Since no stem is changed, each root is shorter than its text.
  induction hlength : text.length using Nat.strong_induction_on generalizing text with
  | h n ih =>
    refine ⟨fun _ owned howned => SuffixDefinition.strip_total (hp.compiles owned howned) text, ?_⟩
    intro _ owned howned stem root hstrip
    obtain ⟨hne, hstrips⟩ := SuffixDefinition.strips_of_strip hstrip
    obtain rfl := hp.root_eq_stem howned hstrips
    have hsuffix := List.length_pos_iff.mpr hne
    have htext := congrArg List.length hstrips.spelled
    rw [List.length_append] at htext
    exact ih root.length (by omega) root rfl

end Grammar.Plain

theorem builds_of_strippable (hp : g.Plain) {word root : Text} {chain : List Grammar.OwnedSuffix}
    {changed : Bool} (h : g.Strippable word chain root changed) : g.Builds root chain word := by
  induction h with
  | nil => exact .nil
  | cons outer declared long strips ih =>
    obtain rfl := hp.root_eq_stem declared strips
    refine .cons declared strips.holds ?_
    rw [← strips.spelled]
    exact ih

/-- What has been attached to a root of three characters or more can be stripped again. -/
theorem strippable_of_builds (hp : g.Plain) (hg : g.WellKeyed) {root form : Text}
    {chain : List Grammar.OwnedSuffix} (h : g.Builds root chain form) (hroot : 3 ≤ root.length) :
    g.Strippable form chain root false := by
  induction h with
  | nil => exact .nil
  | @cons root form owned chain declared holds outer ih =>
    have hsuffix := List.length_pos_iff.mpr (hg.suffix_ne_nil_of_mem declared)
    -- Three characters and a suffix are enough for the suffix to be tried.
    have hlong : 4 ≤ (root ++ owned.2.suffix).length := by
      rw [List.length_append]
      omega
    have happly := Condition.apply_of_not_transforms (hp.keeps owned declared) root
    have hstrips : owned.2.Strips (root ++ owned.2.suffix) root root := by
      refine ⟨rfl, List.ne_nil_of_length_pos ?_, holds, happly, ?_⟩ <;> omega
    have hchain := Grammar.Strippable.cons (ih (by omega)) declared hlong hstrips
    have hsame : (false || root != root) = false := by simp
    rwa [hsame] at hchain

end Morphotactics
