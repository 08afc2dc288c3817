import Morphotactics.Condition
import Morphotactics.Proofs.Pattern.Division
import Morphotactics.Proofs.Stepwise

/-! Changes of stems, and conditions that leave every stem as it is. -/
namespace Morphotactics.Condition

variable {c : Condition} {stem root : Text}

/-- The match that a condition finds in a stem is a part of the stem. -/
theorem find?_divides {found : Pattern.Found} (h : c.find? stem = .ok (some found)) :
    stem = found.before ++ found.matched ++ found.after := by
  unfold find? at h
  cases hfind : Pattern.find? c.side c.pattern stem with
  | error fault => simp [hfind] at h
  | ok result =>
    rw [hfind] at h
    obtain rfl := Except.ok.inj h
    exact Pattern.find?_divides hfind

/-- A change makes a stem longer at most by the text that is put in. -/
theorem apply_length_le (h : c.apply stem = .ok root) :
    root.length ≤ stem.length + c.replacement.length := by
  unfold apply at h
  split_ifs at h
  · obtain ⟨found?, hfind, h⟩ := bind_eq_ok_iff.mp h
    cases found? with
    | none =>
      obtain rfl := pure_eq_ok_iff.mp h
      exact Nat.le_add_right _ _
    | some found =>
      obtain rfl := pure_eq_ok_iff.mp h
      have hstem := congrArg List.length (find?_divides hfind)
      simp only [List.length_append] at hstem ⊢
      omega
  · obtain rfl := Except.ok.inj h
    exact Nat.le_add_right _ _
  · obtain rfl := Except.ok.inj h
    have hcut := List.length_take_le' (stem.length - c.cut.toNat) stem
    omega
  · obtain rfl := Except.ok.inj h
    exact Nat.le_add_right _ _

/-- A condition that replaces nothing makes no stem longer. -/
theorem apply_length_le_of_not_replaces (hc : c.replaces = false) (h : c.apply stem = .ok root) :
    root.length ≤ stem.length := by
  have hnone : c.replacement = [] := by simpa [replaces] using hc
  simpa [hnone] using apply_length_le h

/-- The pattern of the condition, if there is one, can be tied to its end of a stem. -/
def Compiles (c : Condition) : Prop :=
  c.usesPattern → ∃ node, Pattern.Node.read (Pattern.anchored c.side c.pattern) = .ok node

theorem find?_total (hc : c.Compiles) (hp : c.usesPattern) (stem : Text) :
    ∃ found, c.find? stem = .ok found := by
  obtain ⟨node, hnode⟩ := hc hp
  have hfind : Pattern.find? c.side c.pattern stem =
      .ok (node.search Pattern.startMode [] stem) := by
    unfold Pattern.find?
    rw [hnode]
    rfl
  unfold find?
  rw [hfind]
  exact ⟨_, rfl⟩

theorem holds_total (hc : c.Compiles) (stem : Text) : ∃ result, c.holds stem = .ok result := by
  have hmatch : c.usesPattern → ∃ result,
      (do return (← c.find? stem).isSome : Except Pattern.Invalid Bool) = .ok result := by
    intro hp
    obtain ⟨found, hfound⟩ := find?_total hc hp stem
    rw [hfound]
    exact ⟨_, rfl⟩
  unfold holds
  split
  · exact ⟨_, rfl⟩
  · split_ifs with hp
    · exact hmatch hp
    · exact ⟨_, rfl⟩
  · split_ifs with hp
    · exact hmatch hp
    · exact ⟨_, rfl⟩
  · exact ⟨_, rfl⟩
  · exact ⟨_, rfl⟩
  · exact ⟨_, rfl⟩

theorem apply_total (hc : c.Compiles) (stem : Text) : ∃ root, c.apply stem = .ok root := by
  unfold apply
  split_ifs with _ hp
  · obtain ⟨found?, hfound⟩ := find?_total hc (Bool.and_eq_true_iff.mp hp).1 stem
    rw [hfound]
    cases found? <;> exact ⟨_, rfl⟩
  · exact ⟨_, rfl⟩
  · exact ⟨_, rfl⟩
  · exact ⟨_, rfl⟩

/-- Where there is a pattern for a side of the stem, it is what decides there. -/
theorem holds_of_pattern (hkind : c.kind = .endsWith ∨ c.kind = .startsWith) (hp : c.usesPattern)
    (hstem : stem ≠ []) : c.holds stem = (c.find? stem).map Option.isSome := by
  unfold holds
  rw [List.head?_eq_some_head hstem, List.getLast?_eq_some_getLast hstem]
  obtain hkind | hkind := hkind
  all_goals
    rw [hkind]
    dsimp only
    rw [if_pos hp]
    cases c.find? stem <;> rfl

/-- Without a pattern and without characters no stem is allowed. -/
theorem holds_of_no_operand (hkind : c.kind = .endsWith ∨ c.kind = .startsWith)
    (hp : c.usesPattern = false) (hcharacters : c.characters = []) (hstem : stem ≠ []) :
    c.holds stem = .ok false := by
  unfold holds
  rw [List.head?_eq_some_head hstem, List.getLast?_eq_some_getLast hstem, hp, hcharacters]
  obtain hkind | hkind := hkind
  all_goals
    rw [hkind]
    rfl

/-- What has been found is replaced, at either side. -/
theorem apply_of_found (hr : c.replaces) (hp : c.usesPattern)
    (hkind : c.kind = .endsWith ∨ c.kind = .startsWith) {found : Pattern.Found}
    (hfound : c.find? stem = .ok (some found)) :
    c.apply stem = .ok (found.before ++ c.replacement ++ found.after) := by
  have hside : (c.usesPattern && (c.kind = .endsWith || c.kind = .startsWith)) = true := by
    simpa [hp] using hkind
  unfold apply
  rw [hr, if_pos rfl, if_pos hside]
  exact bind_eq_ok_iff.mpr ⟨_, hfound, rfl⟩

theorem apply_of_not_transforms (hc : c.transforms = false) (stem : Text) :
    c.apply stem = .ok stem := by
  obtain ⟨hreplaces, hcut⟩ := Bool.or_eq_false_iff.mp hc
  have hnocut : ¬ (0 < c.cut ∧ c.cut ≤ stem.length) := fun h =>
    of_decide_eq_false hcut h.1
  unfold apply
  rw [hreplaces, if_neg Bool.false_ne_true, if_neg hnocut]

end Morphotactics.Condition
