import Morphotactics.Segmentation
import Morphotactics.Proofs.Condition
import Mathlib.Data.List.Basic

/-! What the stripping of one suffix leaves, and which remainders come after a remainder. -/
namespace Morphotactics

theorem Text.dropEnding?_eq_some {ending text stem : Text} :
    Text.dropEnding? ending text = some stem ↔ text = stem ++ ending := by
  unfold Text.dropEnding?
  split_ifs with h
  · obtain ⟨front, rfl⟩ := List.isSuffixOf_iff_suffix.mp h
    simp [eq_comm]
  · simp only [false_iff]
    rintro rfl
    exact h (List.isSuffixOf_iff_suffix.mpr (List.suffix_append stem ending))

namespace SuffixDefinition

/-- The suffix stands at the end of the text, its condition holds of the stem in front of it, and
the stem as the condition changes it is long enough for a root. -/
structure Strips (d : SuffixDefinition) (text stem root : Text) : Prop where
  spelled : text = stem ++ d.suffix
  stem_ne_nil : stem ≠ []
  holds : d.condition.holds stem = .ok true
  applies : d.condition.apply stem = .ok root
  root_long : 2 ≤ root.length

variable {d : SuffixDefinition} {text stem root : Text}

theorem strips_of_strip (h : d.strip text = .ok (some (stem, root))) :
    d.suffix ≠ [] ∧ d.Strips text stem root := by
  unfold strip at h
  split_ifs at h with hd
  · simp at h
  obtain ⟨hne, hlt⟩ : d.suffix ≠ [] ∧ d.suffix.length < text.length := by simpa using hd
  refine ⟨hne, ?_⟩
  split at h
  · simp at h
  · rename_i front hfront
    have hspelled := Text.dropEnding?_eq_some.mp hfront
    have hstem : front ≠ [] := by
      rintro rfl
      simp [hspelled] at hlt
    obtain ⟨holds, hholds, h⟩ := bind_eq_ok_iff.mp h
    cases holds with
    | false => simp at h
    | true =>
      obtain ⟨changed, happ, h⟩ := bind_eq_ok_iff.mp h
      by_cases hs : changed.length < minRootLength
      · simp [hs] at h
      · simp only [pure_eq_ok_iff, hs, if_false, Option.some.injEq, Prod.mk.injEq] at h
        obtain ⟨rfl, rfl⟩ := h
        exact ⟨hspelled, hstem, hholds, happ, Nat.le_of_not_lt hs⟩

theorem strip_of_strips (hne : d.suffix ≠ []) (h : d.Strips text stem root) :
    d.strip text = .ok (some (stem, root)) := by
  have hdrop := Text.dropEnding?_eq_some.mpr h.spelled
  have hlt : d.suffix.length < text.length := by
    have := List.length_pos_iff.mpr h.stem_ne_nil
    simp only [h.spelled, List.length_append]
    omega
  have hguard : ¬ (d.suffix.isEmpty || decide (text.length ≤ d.suffix.length)) = true := by
    simp [hne, hlt]
  have hlong : ¬ root.length < minRootLength := Nat.not_lt.mpr h.root_long
  unfold strip
  rw [if_neg hguard, hdrop]
  simp only [h.holds, h.applies, bind, Except.bind, pure, Except.pure, if_true]
  rw [if_neg hlong]

end SuffixDefinition

namespace Remainder

/-- What is left after one more suffix, if that can be stripped. -/
def child? (r : Remainder) (owned : Grammar.OwnedSuffix) : Option Remainder :=
  match owned.2.strip r.root with
  | .ok (some (stem, root)) => some (r.extend owned stem root)
  | _ => none

theorem child?_eq_some {r child : Remainder} {owned : Grammar.OwnedSuffix} :
    r.child? owned = some child ↔
      ∃ stem root, owned.2.strip r.root = .ok (some (stem, root)) ∧
        child = r.extend owned stem root := by
  unfold child?
  split
  · rename_i stem root hstrip
    simp [hstrip, eq_comm]
  · rename_i hnone
    simp only [reduceCtorEq, false_iff]
    rintro ⟨stem, root, hstrip, -⟩
    exact hnone stem root hstrip

theorem strips_eq_ok_iff {r : Remainder} {suffixes : List Grammar.OwnedSuffix}
    {children : List Remainder} :
    r.strips suffixes = .ok children ↔
      (∀ owned ∈ suffixes, ∃ result, owned.2.strip r.root = .ok result) ∧
        children = suffixes.filterMap r.child? := by
  induction suffixes generalizing children with
  | nil => simp [strips, eq_comm]
  | cons owned rest ih =>
    simp only [strips, bind_eq_ok_iff, List.forall_mem_cons]
    constructor
    · rintro ⟨result, hres, h⟩
      cases result with
      | none =>
        obtain ⟨hall, rfl⟩ := ih.mp h
        exact ⟨⟨⟨none, hres⟩, hall⟩, by simp [child?, hres]⟩
      | some found =>
        obtain ⟨more, hmore, h⟩ := bind_eq_ok_iff.mp h
        obtain ⟨hall, rfl⟩ := ih.mp hmore
        have hcons := (pure_eq_ok_iff.mp h).symm
        exact ⟨⟨⟨some found, hres⟩, hall⟩, by simpa [child?, hres] using hcons⟩
    · rintro ⟨⟨⟨result, hres⟩, hall⟩, rfl⟩
      have hmore := ih.mpr ⟨hall, rfl⟩
      refine ⟨result, hres, ?_⟩
      cases result with
      | none => simpa [child?, hres] using hmore
      | some found => exact bind_eq_ok_iff.mpr ⟨_, hmore, by simp [child?, hres]⟩

/-- The remainders one suffix further, whatever there is to say of patterns. -/
def children (g : Grammar) (r : Remainder) : List Remainder :=
  if r.root.length ≤ 3 then []
  else (g.suffixes.filterMap r.child?).mergeSort fun a b => b.lastLength ≤ a.lastLength

theorem next_eq_ok_iff {g : Grammar} {r : Remainder} {next : List Remainder} :
    r.next g = .ok next ↔
      (4 ≤ r.root.length → ∀ owned ∈ g.suffixes, ∃ result, owned.2.strip r.root = .ok result) ∧
        next = r.children g := by
  unfold Remainder.next children
  by_cases hlen : r.root.length ≤ 3
  · have hshort : ¬ 4 ≤ r.root.length := by omega
    simp [minRootLength, hlen, hshort, eq_comm]
  · have hlong : 4 ≤ r.root.length := by omega
    simp only [minRootLength, hlen, if_false, hlong, forall_const, bind_eq_ok_iff,
      strips_eq_ok_iff, pure_eq_ok_iff]
    constructor
    · rintro ⟨_, ⟨hall, rfl⟩, rfl⟩
      exact ⟨hall, rfl⟩
    · rintro ⟨hall, rfl⟩
      exact ⟨_, ⟨hall, rfl⟩, rfl⟩

theorem mem_children {g : Grammar} {r child : Remainder} :
    child ∈ r.children g ↔
      4 ≤ r.root.length ∧ ∃ owned ∈ g.suffixes, ∃ stem root,
        owned.2.strip r.root = .ok (some (stem, root)) ∧ child = r.extend owned stem root := by
  unfold children
  split_ifs with hlen
  · simp only [List.not_mem_nil, false_iff]
    omega
  · simp only [List.mem_mergeSort, List.mem_filterMap, child?_eq_some]
    exact ⟨fun h => ⟨by omega, h⟩, fun h => h.2⟩

end Remainder
end Morphotactics
