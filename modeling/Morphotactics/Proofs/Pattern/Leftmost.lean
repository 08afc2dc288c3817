import Mathlib
import Morphotactics.Proofs.Pattern.Division

/-! What a search finds: the match that begins furthest to the left. -/
namespace Morphotactics.Pattern

/-- How the match ends that begins between two parts of a text, if there is one. -/
def Node.matchAt (node : Node) (mode : Mode) (before after : Text) : Option Place :=
  node.run mode ⟨before.reverse, after, []⟩ some

/-- Somewhere in the text a match begins. -/
def Node.HasMatch (node : Node) (mode : Mode) (text : Text) : Prop :=
  ∃ before after, text = before ++ after ∧ (node.matchAt mode before after).isSome

/-- The match begins where it is found, ends in front of the text behind it, and none begins further
to the left. -/
structure Node.Leftmost (node : Node) (mode : Mode) (text : Text) (found : Found) : Prop where
  divides : text = found.before ++ found.matched ++ found.after
  ends : (node.matchAt mode found.before (found.matched ++ found.after)).map (·.after) =
    some found.after
  first : ∀ before after, text = before ++ after → before.length < found.before.length →
    node.matchAt mode before after = none

variable {node : Node} {mode : Mode} {text before after : Text} {found : Found}

theorem attempt_eq_none_iff :
    Node.search.attempt node mode before.reverse after = none ↔
      node.matchAt mode before after = none :=
  Option.map_eq_none_iff

/-- An attempt gives the match at its place. -/
theorem matchAt_of_attempt (h : Node.search.attempt node mode before.reverse after = some found) :
    found.before = before ∧
      (node.matchAt mode before after).map (·.after) = some found.after := by
  obtain ⟨last, hlast, rfl⟩ := Option.map_eq_some_iff.mp h
  refine ⟨before.reverse_reverse, ?_⟩
  rw [Node.matchAt, hlast]
  rfl

/-- Places are tried from left to right. -/
theorem search_cons (before : Text) (c : Char) (rest : Text) :
    node.search mode before.reverse (c :: rest) =
      (Node.search.attempt node mode before.reverse (c :: rest)).or
        (node.search mode (before ++ [c]).reverse rest) := by
  rw [List.reverse_append, Node.search, Option.or_eq_orElse]
  rfl

/-- A place to the left of one in the rest of a text is the first, or one in the rest itself. -/
theorem none_of_cons {c : Char} {rest passed : Text}
    (hhere : node.matchAt mode before (c :: rest) = none)
    (hrest : ∀ earlier left, rest = earlier ++ left → earlier.length < passed.length →
      node.matchAt mode (before ++ [c] ++ earlier) left = none) (earlier left : Text)
    (htext : c :: rest = earlier ++ left) (hshort : earlier.length < (c :: passed).length) :
    node.matchAt mode (before ++ earlier) left = none := by
  cases earlier with
  | nil =>
    obtain rfl : c :: rest = left := htext
    rwa [List.append_nil]
  | cons d earlier =>
    obtain ⟨rfl, hsame⟩ := List.cons.inj htext
    have hlater := hrest earlier left hsame (Nat.lt_of_succ_lt_succ hshort)
    rwa [List.append_assoc] at hlater

/-- A search finds what an attempt gives, and no attempt further to the left gives anything. -/
theorem exists_attempt_of_search (before : Text)
    (h : node.search mode before.reverse text = some found) :
    ∃ passed left, text = passed ++ left ∧
      Node.search.attempt node mode (before ++ passed).reverse left = some found ∧
        ∀ earlier rest, text = earlier ++ rest → earlier.length < passed.length →
          node.matchAt mode (before ++ earlier) rest = none := by
  induction text generalizing before with
  | nil => exact ⟨[], [], rfl, by rwa [List.append_nil], fun _ _ _ => nofun⟩
  | cons c rest ih =>
    rw [search_cons] at h
    cases hhere : Node.search.attempt node mode before.reverse (c :: rest) with
    | some first =>
      rw [hhere, Option.some_or] at h
      exact ⟨[], c :: rest, rfl, by rwa [List.append_nil, ← h], fun _ _ _ => nofun⟩
    | none =>
      rw [hhere, Option.none_or] at h
      obtain ⟨passed, left, rfl, hfound, hfirst⟩ := ih _ h
      refine ⟨c :: passed, left, rfl, ?_, none_of_cons (attempt_eq_none_iff.mp hhere) hfirst⟩
      rwa [List.append_assoc, List.singleton_append] at hfound

theorem matchAt_eq_none_of_search (before : Text)
    (h : node.search mode before.reverse text = none) (passed left : Text)
    (htext : text = passed ++ left) : node.matchAt mode (before ++ passed) left = none := by
  induction text generalizing before passed left with
  | nil =>
    obtain ⟨rfl, rfl⟩ := List.append_eq_nil_iff.mp htext.symm
    rw [List.append_nil]
    exact attempt_eq_none_iff.mp h
  | cons c rest ih =>
    rw [search_cons, Option.or_eq_none_iff] at h
    have hlater : ∀ earlier more, rest = earlier ++ more → earlier.length < passed.length →
        node.matchAt mode (before ++ [c] ++ earlier) more = none :=
      fun earlier more hsame _ => ih _ h.2 earlier more hsame
    exact none_of_cons (attempt_eq_none_iff.mp h.1) hlater passed left htext (Nat.lt_succ_self _)

/-- A search finds the leftmost match. -/
theorem leftmost_of_search (h : node.search mode [] text = some found) :
    node.Leftmost mode text found := by
  obtain ⟨passed, left, rfl, hfound, hfirst⟩ := exists_attempt_of_search [] h
  obtain ⟨hbefore, hends⟩ := matchAt_of_attempt hfound
  have hdivides := search_divides h
  obtain rfl : passed = found.before := hbefore.symm
  obtain rfl : left = found.matched ++ found.after := by simpa using hdivides
  exact ⟨hdivides, hends, hfirst⟩

theorem hasMatch_iff_search : node.HasMatch mode text ↔ (node.search mode [] text).isSome := by
  constructor
  · rintro ⟨before, after, htext, hmatch⟩
    refine Option.isSome_iff_ne_none.mpr fun hnone => ?_
    have hnowhere := matchAt_eq_none_of_search [] hnone before after htext
    exact Option.isSome_iff_ne_none.mp hmatch hnowhere
  · intro h
    obtain ⟨found, hfound⟩ := Option.isSome_iff_exists.mp h
    obtain ⟨hdivides, hends, -⟩ := leftmost_of_search hfound
    refine ⟨found.before, found.matched ++ found.after, ?_, ?_⟩
    · rwa [← List.append_assoc]
    · rw [← Option.isSome_map, hends]
      rfl

namespace Node.Leftmost

variable {other : Found}

theorem length_le (h : node.Leftmost mode text found) (hother : node.Leftmost mode text other) :
    other.before.length ≤ found.before.length := by
  by_contra hshort
  have hdivides : text = found.before ++ (found.matched ++ found.after) := by
    rw [← List.append_assoc]
    exact h.divides
  have hends := h.ends
  rw [hother.first _ _ hdivides (Nat.lt_of_not_le hshort)] at hends
  cases hends

/-- There is one leftmost match at most. -/
theorem unique (h : node.Leftmost mode text found) (hother : node.Leftmost mode text other) :
    found = other := by
  obtain ⟨before, matched, after⟩ := found
  obtain ⟨before', matched', after'⟩ := other
  have hlength : before.length = before'.length :=
    (hother.length_le h).antisymm (h.length_le hother)
  have hsame := h.divides.symm.trans hother.divides
  simp only [List.append_assoc] at hsame
  obtain ⟨rfl, hrest⟩ := List.append_inj hsame hlength
  have hends := h.ends
  dsimp only at hends hrest
  rw [hrest] at hends
  obtain rfl : after = after' := Option.some.inj (hends.symm.trans hother.ends)
  obtain rfl : matched = matched' := List.append_cancel_right hrest
  rfl

end Node.Leftmost

end Morphotactics.Pattern
