import Mathlib
import Morphotactics.Proofs.Segmentation.Stripping

/-! Malformed patterns and the suffixes they belong to. Such a suffix can never be stripped, and to
try it is an error exactly where a text ends with it. -/
namespace Morphotactics

namespace Condition

/-- What is wrong with the pattern that the condition looks for at one side of a stem, if something
is. -/
def refusal? (c : Condition) : Option Pattern.Invalid :=
  if (c.kind = .endsWith ∨ c.kind = .startsWith) ∧ c.usesPattern then
    match Pattern.Node.read (Pattern.anchored c.side c.pattern) with
    | .ok _ => none
    | .error fault => some ⟨c.side, c.pattern, fault⟩
  else none

variable {c : Condition} {stem : Text} {error : Pattern.Invalid}

theorem refusal?_eq_some_iff (hkind : c.kind = .endsWith ∨ c.kind = .startsWith)
    (hp : c.usesPattern) (stem : Text) : c.refusal? = some error ↔ c.find? stem = .error error := by
  rw [refusal?, if_pos ⟨hkind, hp⟩, find?, Pattern.find?]
  cases Pattern.Node.read (Pattern.anchored c.side c.pattern) with
  | error fault => simp [bind, Except.bind]
  | ok node => simp [bind, Except.bind, pure, Except.pure]

theorem holds_error_iff (hstem : stem ≠ []) :
    c.holds stem = .error error ↔ c.refusal? = some error := by
  by_cases hpattern : (c.kind = .endsWith ∨ c.kind = .startsWith) ∧ c.usesPattern
  · obtain ⟨hkind, hp⟩ := hpattern
    rw [holds_of_pattern hkind hp hstem, refusal?_eq_some_iff hkind hp stem]
    cases c.find? stem <;> simp [Except.map]
  · have hsound : c.refusal? = none := if_neg hpattern
    have hcompiles : ∃ result, c.holds stem = .ok result := by
      unfold holds
      split <;> simp_all
    obtain ⟨result, hresult⟩ := hcompiles
    simp [hsound, hresult]

theorem refusal?_of_compiles (h : c.Compiles) : c.refusal? = none := by
  unfold refusal?
  split_ifs with hpattern
  · obtain ⟨node, hread⟩ := h hpattern.2
    rw [hread]
  · rfl

/-- Nothing goes wrong in the change of a stem that has not gone wrong before. -/
theorem refusal?_of_apply (h : c.apply stem = .error error) : c.refusal? = some error := by
  unfold apply at h
  split_ifs at h with _ hp
  obtain ⟨hp, hkind⟩ : c.usesPattern = true ∧ (c.kind = .endsWith ∨ c.kind = .startsWith) := by
    simpa using hp
  rw [refusal?_eq_some_iff hkind hp stem]
  obtain h | ⟨found?, -, h⟩ := bind_eq_error_iff.mp h
  · exact h
  · cases found? <;> cases h

end Condition

namespace SuffixDefinition

/-- The suffix stands at the end of the text, behind something else. -/
structure Ends (d : SuffixDefinition) (text : Text) : Prop where
  nonempty : d.suffix ≠ []
  shorter : d.suffix.length < text.length
  ending : d.suffix <:+ text

variable {d : SuffixDefinition} {text stem : Text} {error : Pattern.Invalid}

theorem ends_iff : d.Ends text ↔
    d.suffix ≠ [] ∧ ∃ stem, stem ≠ [] ∧ text = stem ++ d.suffix := by
  constructor
  · rintro ⟨hne, hshorter, stem, rfl⟩
    refine ⟨hne, stem, ?_, rfl⟩
    rintro rfl
    simp at hshorter
  · rintro ⟨hne, stem, hstem, rfl⟩
    have hlength := List.length_pos_iff.mpr hstem
    exact ⟨hne, by rw [List.length_append]; omega, List.suffix_append _ _⟩

/-- A suffix is tried where it ends a text: its condition is asked, and the stem is changed if it
holds. -/
theorem strip_append (hne : d.suffix ≠ []) (hstem : stem ≠ []) :
    d.strip (stem ++ d.suffix) = do
      if ← d.condition.holds stem then
        let root ← d.condition.apply stem
        return if root.length < minRootLength then none else some (stem, root)
      else return none := by
  have hlength := List.length_pos_iff.mpr hstem
  have htried : ¬ (d.suffix.isEmpty || decide ((stem ++ d.suffix).length ≤ d.suffix.length)) =
      true := by
    simp [hne]
    omega
  rw [strip, if_neg htried, Text.dropEnding?_eq_some.mpr rfl]

theorem strip_of_not_ends (h : ¬ d.Ends text) : d.strip text = .ok none := by
  unfold strip
  split_ifs with hguard
  · rfl
  obtain ⟨hne, hshorter⟩ : d.suffix ≠ [] ∧ d.suffix.length < text.length := by simpa using hguard
  cases hdrop : Text.dropEnding? d.suffix text with
  | none => rfl
  | some stem =>
    have htext := Text.dropEnding?_eq_some.mp hdrop
    exact absurd ⟨hne, hshorter, stem, htext.symm⟩ h

/-- To try a suffix is an error exactly if its pattern is malformed. -/
theorem strip_error_iff :
    d.strip text = .error error ↔ d.Ends text ∧ d.condition.refusal? = some error := by
  by_cases hends : d.Ends text
  · obtain ⟨hne, stem, hstem, rfl⟩ := ends_iff.mp hends
    rw [strip_append hne hstem, ← Condition.holds_error_iff hstem, bind_eq_error_iff]
    constructor
    · rintro (hholds | ⟨holds, hholds, h⟩)
      · exact ⟨hends, hholds⟩
      · cases holds with
        | false => cases h
        | true =>
          obtain happly | ⟨root, -, h⟩ := bind_eq_error_iff.mp h
          · have hrefusal := Condition.refusal?_of_apply happly
            exact ⟨hends, (Condition.holds_error_iff hstem).mpr hrefusal⟩
          · cases h
    · rintro ⟨-, hholds⟩
      exact .inl hholds
  · simp [strip_of_not_ends hends, hends]

theorem strip_ok_of_sound (h : d.condition.refusal? = none) (text : Text) :
    ∃ result, d.strip text = .ok result := by
  refine exists_eq_ok_iff.mpr fun error herror => ?_
  cases h.symm.trans (strip_error_iff.mp herror).2

theorem strip_total (hc : d.condition.Compiles) (text : Text) :
    ∃ result, d.strip text = .ok result :=
  strip_ok_of_sound (Condition.refusal?_of_compiles hc) text

end SuffixDefinition

end Morphotactics
