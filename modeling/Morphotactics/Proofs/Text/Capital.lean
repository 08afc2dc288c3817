import Mathlib
import Morphotactics.Letter

/-! Characters whose upper case is made of capital Latin letters: the letters among them and those
that stand for one or more of them, and nothing but letters. -/
namespace Morphotactics

def isCapitalCode (n : Nat) : Bool :=
  0x41 ≤ n && n ≤ 0x5a

/-- The code points that a run goes over, with those that it leaves out. -/
def CaseRun.span (r : CaseRun) : List Nat :=
  List.range' r.first (r.last + 1 - r.first)

/-- No run that gives a capital goes over anything but letters. -/
theorem upperRuns_capital :
    ∀ r ∈ upperRuns, r.image ≤ 0x5a → ∀ n ∈ r.span, letterRanges.has n = true := by
  decide +kernel

theorem upperSequences_capital :
    ∀ s ∈ upperSequences, s.2.all isCapitalCode → letterRanges.has s.1 = true := by
  decide +kernel

theorem letterRanges_capital : ∀ n ∈ List.range' 0x41 26, letterRanges.has n = true := by
  decide +kernel

theorem exists_run_of_caseImage? {n m : Nat} {runs : List CaseRun} (h : caseImage? n runs = some m) :
    ∃ r ∈ runs, n ∈ r.span ∧ r.image ≤ m := by
  induction runs with
  | nil => cases h
  | cons r rest ih =>
    rw [caseImage?] at h
    split_ifs at h
    cases happly : r.apply? n with
    | none =>
      rw [happly] at h
      obtain ⟨r', hmem, hr'⟩ := ih h
      exact ⟨r', List.mem_cons_of_mem r hmem, hr'⟩
    | some image =>
      rw [happly] at h
      obtain rfl := Option.some.inj h
      unfold CaseRun.apply? at happly
      split_ifs at happly with hrun
      have himage := Option.some.inj happly
      refine ⟨r, List.mem_cons_self, ?_, by omega⟩
      exact List.mem_range'_1.mpr ⟨hrun.1, by omega⟩

theorem letterRanges_of_upperCodes {n : Nat} (h : ∀ m ∈ upperCodes n, isCapitalCode m) :
    letterRanges.has n = true := by
  unfold upperCodes at h
  split at h
  · rename_i m himage
    have hm : isCapitalCode m = true := h m (List.mem_singleton_self m)
    obtain ⟨r, hr, hn, hfirst⟩ := exists_run_of_caseImage? himage
    have hlast : m ≤ 0x5a := of_decide_eq_true (Bool.and_eq_true_iff.mp hm).2
    exact upperRuns_capital r hr (Nat.le_trans hfirst hlast) n hn
  · cases hlookup : upperSequences.lookup n with
    | some codes =>
      rw [hlookup, Option.getD_some] at h
      have hmem : (n, codes) ∈ upperSequences := by
        obtain ⟨before, after, hsplit, -⟩ := List.lookup_eq_some_iff.mp hlookup
        rw [hsplit]
        exact List.mem_append_right before List.mem_cons_self
      exact upperSequences_capital _ hmem (List.all_eq_true.mpr h)
    | none =>
      rw [hlookup, Option.getD_none] at h
      have hn : isCapitalCode n = true := h n (List.mem_singleton_self n)
      obtain ⟨hfirst, hlast⟩ := Bool.and_eq_true_iff.mp hn
      have hle := of_decide_eq_true hlast
      exact letterRanges_capital n (List.mem_range'_1.mpr ⟨of_decide_eq_true hfirst, by omega⟩)

theorem isCapitalCode_of_isUpper {n : Nat} (h : (Char.ofNat n).isUpper = true) :
    isCapitalCode n = true := by
  by_cases hvalid : n.isValidChar
  · rw [Char.ofNat, dif_pos hvalid] at h
    simpa [Char.isUpper, isCapitalCode, Char.ofNatAux, UInt32.le_iff_toNat_le] using h
  · rw [Char.ofNat, dif_neg hvalid] at h
    cases h

theorem isAlpha_of_upperChar {c : Char} (h : ∀ d ∈ upperChar c, d.isUpper) : isAlpha c = true :=
  letterRanges_of_upperCodes fun _ hm => isCapitalCode_of_isUpper (h _ (List.mem_map_of_mem hm))

/-- A text with an upper case of capital Latin letters consists of letters. -/
theorem isAlpha_of_upperText {text : Text} (h : ∀ d ∈ upperText text, d.isUpper) :
    ∀ c ∈ text, isAlpha c = true :=
  fun _ hc => isAlpha_of_upperChar fun d hd => h d (List.mem_flatMap_of_mem hc hd)

end Morphotactics
