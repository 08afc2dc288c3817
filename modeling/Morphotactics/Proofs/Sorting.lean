import Mathlib.Data.List.Basic

/-! Stable sorting: what keeps its order, what a longer list keeps of a shorter one, and which
element comes first. -/
namespace Morphotactics

variable {α : Type} {le : α → α → Bool} {l l' : List α} {a : α}

/-- What belongs in front of an element, and what belongs behind it, are told apart by one
comparison. -/
private theorem filter_of_split {before after : List α} (hbefore : ∀ b ∈ before, !le a b)
    (hafter : ∀ b ∈ after, le a b) :
    (before ++ after).filter (!le a ·) = before ∧ (before ++ after).filter (le a ·) = after := by
  have hback : ∀ b ∈ after, ¬ (!le a b) = true := fun b hb => by simp [hafter b hb]
  have hfront : ∀ b ∈ before, ¬ le a b = true := fun b hb => by simpa using hbefore b hb
  rw [List.filter_append, List.filter_append, List.filter_eq_self.mpr hbefore,
    List.filter_eq_nil_iff.mpr hback, List.filter_eq_nil_iff.mpr hfront,
    List.filter_eq_self.mpr hafter]
  exact ⟨List.append_nil before, rfl⟩

section Size

variable (size : α → Nat)

theorem largest_first_trans (a b c : α) (hab : decide (size b ≤ size a))
    (hbc : decide (size c ≤ size b)) : decide (size c ≤ size a) := by
  rw [decide_eq_true_eq] at *
  omega

theorem largest_first_total (a b : α) :
    decide (size b ≤ size a) || decide (size a ≤ size b) := by
  rw [Bool.or_eq_true, decide_eq_true_eq, decide_eq_true_eq]
  omega

end Size

section Parts

variable {p : α → Bool}

/-- Sorting does not move what has a property, if this is in order already. -/
theorem filter_mergeSort_of_pairwise (htrans : ∀ a b c, le a b → le b c → le a c)
    (htotal : ∀ a b, le a b || le b a) (h : (l.filter p).Pairwise fun a b => le a b) :
    (l.mergeSort le).filter p = l.filter p := by
  have hsorted : (l.filter p).Sublist (l.mergeSort le) :=
    List.sublist_mergeSort htrans htotal h List.filter_sublist
  have hkept : (l.filter p).Sublist ((l.mergeSort le).filter p) := by
    simpa [List.filter_filter] using hsorted.filter p
  have hlength := ((List.mergeSort_perm l le).filter p).length_eq
  exact (hkept.eq_of_length hlength.symm).symm

theorem eq_filter_append_filter (h : l.Pairwise fun a b => p b → p a) :
    l = l.filter p ++ l.filter (!p ·) := by
  induction l with
  | nil => rfl
  | cons a rest ih =>
    obtain ⟨hfirst, hrest⟩ := List.pairwise_cons.mp h
    cases ha : p a with
    | true => simpa [ha] using ih hrest
    | false =>
      have hnone : ∀ b ∈ rest, p b = false :=
        fun b hb => Bool.eq_false_iff.mpr fun hpb => Bool.eq_false_iff.mp ha (hfirst b hb hpb)
      have hempty : rest.filter p = [] :=
        List.filter_eq_nil_iff.mpr fun b hb => Bool.eq_false_iff.mp (hnone b hb)
      have hall : rest.filter (!p ·) = rest :=
        List.filter_eq_self.mpr fun b hb => by simp [hnone b hb]
      simp [ha, hempty, hall]

end Parts

section

variable (htrans : ∀ a b c, le a b → le b c → le a c) (htotal : ∀ a b, le a b || le b a)

include htrans htotal

/-- Where sorting puts an element: behind all that it must not stand in front of, and in front of
all others. -/
theorem mergeSort_cons_split (a : α) (l : List α) :
    ∃ before after, (a :: l).mergeSort le = before ++ a :: after ∧
      l.mergeSort le = before ++ after ∧ (∀ b ∈ before, !le a b) ∧ ∀ b ∈ after, le a b := by
  obtain ⟨before, after, hsorted, hrest, hbefore⟩ := List.mergeSort_cons htrans htotal a l
  refine ⟨before, after, hsorted, hrest, hbefore, ?_⟩
  have hpairwise := List.pairwise_mergeSort htrans htotal (a :: l)
  rw [hsorted] at hpairwise
  exact (List.pairwise_cons.mp (List.pairwise_append.mp hpairwise).2.1).1

/-- Sorting does not exchange what may stand in either order. -/
theorem pairwise_mergeSort_of_pairwise {R : α → α → Prop} (h : l.Pairwise R) :
    (l.mergeSort le).Pairwise fun a b => le a b ∧ (le b a → R a b) := by
  induction l with
  | nil => simp
  | cons a rest ih =>
    obtain ⟨hfirst, hrest⟩ := List.pairwise_cons.mp h
    obtain ⟨before, after, hsorted, hsplit, hbefore, hafter⟩ :=
      mergeSort_cons_split htrans htotal a rest
    have hmem : ∀ b ∈ after, b ∈ rest := fun b hb => by
      have hmem' : b ∈ rest.mergeSort le := hsplit ▸ List.mem_append_right before hb
      exact List.mem_mergeSort.mp hmem'
    have hahead : ∀ b ∈ before, le b a ∧ (le a b → R b a) := fun b hb => by
      have hnot : le a b = false := by simpa using hbefore b hb
      have hle := htotal a b
      rw [hnot, Bool.false_or] at hle
      exact ⟨hle, fun hab => absurd (hnot.symm.trans hab) Bool.false_ne_true⟩
    have hsorted' := ih hrest
    rw [hsplit, List.pairwise_append] at hsorted'
    obtain ⟨hleft, hright, hacross⟩ := hsorted'
    rw [hsorted, List.pairwise_append, List.pairwise_cons]
    refine ⟨hleft, ⟨fun b hb => ⟨hafter b hb, fun _ => hfirst b (hmem b hb)⟩, hright⟩, ?_⟩
    intro b hb c hc
    obtain rfl | hc := List.mem_cons.mp hc
    · exact hahead b hb
    · exact hacross b hb c hc

/-- A part of a list is, when it is sorted, a part of the sorted list. -/
theorem mergeSort_sublist_mergeSort (h : l.Sublist l') :
    (l.mergeSort le).Sublist (l'.mergeSort le) := by
  induction h with
  | slnil => exact List.Sublist.refl _
  | @cons part whole a _ ih =>
    obtain ⟨before, after, hsorted, hsplit, -⟩ := List.mergeSort_cons htrans htotal a whole
    rw [hsplit] at ih
    rw [hsorted]
    exact ih.trans ((List.sublist_cons_self a after).append_left before)
  | @cons_cons part whole a _ ih =>
    obtain ⟨before, after, hsorted, hsplit, hbefore, hafter⟩ :=
      mergeSort_cons_split htrans htotal a part
    obtain ⟨before', after', hsorted', hsplit', hbefore', hafter'⟩ :=
      mergeSort_cons_split htrans htotal a whole
    rw [hsplit, hsplit'] at ih
    obtain ⟨hfront, hback⟩ := filter_of_split hbefore hafter
    obtain ⟨hfront', hback'⟩ := filter_of_split hbefore' hafter'
    -- The element stands between the same two parts of both lists.
    have hleft := ih.filter (!le a ·)
    have hright := ih.filter (le a ·)
    rw [hfront, hfront'] at hleft
    rw [hback, hback'] at hright
    rw [hsorted, hsorted']
    exact hleft.append (hright.cons_cons a)

/-- The first of a sorted list comes, in the list itself, before all others that may stand in front
of it. -/
theorem exists_split_of_head?_mergeSort (h : (l.mergeSort le).head? = some a) :
    ∃ before after, l = before ++ a :: after ∧ (∀ b ∈ before, !le b a) ∧ ∀ b ∈ after, le a b := by
  induction l with
  | nil => simp at h
  | cons b rest ih =>
    obtain ⟨front, back, hsorted, hsplit, hfront, hback⟩ :=
      mergeSort_cons_split htrans htotal b rest
    rw [hsorted] at h
    cases front with
    | nil =>
      obtain rfl := Option.some.inj h
      refine ⟨[], rest, rfl, List.forall_mem_nil _, fun c hc => hback c ?_⟩
      have hc' : c ∈ rest.mergeSort le := List.mem_mergeSort.mpr hc
      rwa [hsplit] at hc'
    | cons first more =>
      obtain rfl : first = a := Option.some.inj h
      obtain ⟨before, after, hrest, hbefore, hafter⟩ := ih (by rw [hsplit]; rfl)
      exact ⟨b :: before, after, congrArg _ hrest,
        List.forall_mem_cons.mpr ⟨hfront first List.mem_cons_self, hbefore⟩, hafter⟩

end

end Morphotactics
