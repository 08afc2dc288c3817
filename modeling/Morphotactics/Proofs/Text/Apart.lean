import Morphotactics.Letter
import Mathlib.Tactic.SplitIfs

/-! Classes of characters that are apart from each other: letters, decimal digits and blanks. -/
namespace Morphotactics

namespace CodeRanges

theorem exists_of_has {ranges : CodeRanges} {n : Nat} (h : ranges.has n = true) :
    ∃ range ∈ ranges, range.1 ≤ n ∧ n ≤ range.2 := by
  induction ranges with
  | nil => cases h
  | cons range rest ih =>
    obtain ⟨first, last⟩ := range
    rw [has] at h
    split_ifs at h with hfirst
    obtain hlast | hrest := Bool.or_eq_true_iff.mp h
    · exact ⟨_, List.mem_cons_self, Nat.le_of_not_lt hfirst, of_decide_eq_true hlast⟩
    · obtain ⟨range, hmem, hrange⟩ := ih hrest
      exact ⟨range, List.mem_cons_of_mem _ hmem, hrange⟩

/-- The ranges that do not end before a code point. -/
def notBefore (first : Nat) (ranges : CodeRanges) : CodeRanges :=
  ranges.dropWhile (·.2 < first)

/-- No range of the first touches one of the second. Both are gone through only once. -/
def apart : CodeRanges → CodeRanges → Bool
  | [], _ => true
  | (first, last) :: rest, others =>
    (notBefore first others).head?.all (last < ·.1) && apart rest (notBefore first others)

theorem has_notBefore {ranges : CodeRanges} {first n : Nat} (hn : first ≤ n) (h : ranges.has n = true) :
    (notBefore first ranges).has n = true := by
  induction ranges with
  | nil => cases h
  | cons range rest ih =>
    obtain ⟨a, b⟩ := range
    rw [notBefore, List.dropWhile_cons]
    split_ifs with hb
    · have hlast : b < n := Nat.lt_of_lt_of_le (of_decide_eq_true hb) hn
      rw [has] at h
      split_ifs at h
      exact ih (by simpa [Nat.not_le.mpr hlast] using h)
    · exact h

theorem has_eq_false_of_apart {a b : CodeRanges} (h : apart a b = true) {n : Nat}
    (ha : a.has n = true) : b.has n = false := by
  refine Bool.eq_false_iff.mpr fun hb => ?_
  induction a generalizing b with
  | nil => cases ha
  | cons range rest ih =>
    obtain ⟨first, last⟩ := range
    obtain ⟨hhead, hrest⟩ := Bool.and_eq_true_iff.mp h
    rw [has] at ha
    split_ifs at ha with hfirst
    have hkept := has_notBefore (Nat.le_of_not_lt hfirst) hb
    obtain hlast | hmore := Bool.or_eq_true_iff.mp ha
    · cases hothers : notBefore first b with
      | nil =>
        rw [hothers] at hkept
        cases hkept
      | cons next others =>
        rw [hothers] at hkept hhead
        have hnext : last < next.1 := of_decide_eq_true hhead
        have hbefore : n < next.1 := Nat.lt_of_le_of_lt (of_decide_eq_true hlast) hnext
        rw [has, if_pos hbefore] at hkept
        cases hkept
    · exact ih hrest hmore hkept

end CodeRanges

variable {c : Char}

theorem letterRanges_apart : CodeRanges.apart letterRanges decimalRanges = true ∧
    CodeRanges.apart letterRanges blankRanges = true := by
  decide +kernel

theorem blankRanges_apart : CodeRanges.apart blankRanges decimalRanges = true ∧
    CodeRanges.apart blankRanges numberRanges = true := by
  decide +kernel

theorem isDecimal_eq_false_of_isAlpha (h : isAlpha c = true) : isDecimal c = false :=
  CodeRanges.has_eq_false_of_apart letterRanges_apart.1 h

theorem isBlank_eq_false_of_isAlpha (h : isAlpha c = true) : isBlank c = false :=
  CodeRanges.has_eq_false_of_apart letterRanges_apart.2 h

theorem isDecimal_eq_false_of_isBlank (h : isBlank c = true) : isDecimal c = false :=
  CodeRanges.has_eq_false_of_apart blankRanges_apart.1 h

theorem isBlank_eq_false_of_isDecimal (h : isDecimal c = true) : isBlank c = false :=
  Bool.eq_false_iff.mpr fun hblank => Bool.eq_false_iff.mp (isDecimal_eq_false_of_isBlank hblank) h

theorem isIdentifierChar_eq_false_of_isBlank (h : isBlank c = true) :
    isIdentifierChar c = false := by
  have hletter : isAlpha c = false :=
    Bool.eq_false_iff.mpr fun hletter =>
      Bool.eq_false_iff.mp (isBlank_eq_false_of_isAlpha hletter) h
  have hnumber : numberRanges.has c.toNat = false :=
    CodeRanges.has_eq_false_of_apart blankRanges_apart.2 h
  have hunderscore : c ≠ '_' := by
    rintro rfl
    have hblank : isBlank '_' = false := by cbv
    exact Bool.eq_false_iff.mp hblank h
  simp [isIdentifierChar, isAlphanumeric, hletter, isDecimal_eq_false_of_isBlank h, hnumber,
    hunderscore]

end Morphotactics
