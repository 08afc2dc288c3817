import Morphotactics.Proofs.Token.Tokenizing
import Morphotactics.Proofs.Token.Written

/-! What may stand between tokens: blanks and comments. -/
namespace Morphotactics

/-- Blanks and comments in front of what is left of a text. A comment runs to the end of its line,
and only where nothing is left may the line break be missing. -/
inductive Gap (left : Text) : Text → Prop
  | nil : Gap left []
  | blank {c : Char} {rest : Text} (is_blank : isBlank c) (tail : Gap left rest) :
      Gap left (c :: rest)
  | comment {body rest : Text} (one_line : '\n' ∉ body) (tail : Gap left rest) :
      Gap left ('#' :: body ++ '\n' :: rest)
  | last {body : Text} (one_line : '\n' ∉ body) (ended : left = []) : Gap left ('#' :: body)

theorem not_isBlank_sharp : isBlank '#' = false := by
  cbv

theorem Gap.cons_comment {left rest : Text} (h : Gap left ('#' :: rest)) {c : Char}
    (hc : c ≠ '\n') : Gap left ('#' :: c :: rest) := by
  generalize hgap : '#' :: rest = gap at h
  cases h with
  | nil => cases hgap
  | blank is_blank =>
    cases hgap
    exact absurd is_blank (Bool.eq_false_iff.mp not_isBlank_sharp)
  | @comment body more one_line tail =>
    cases hgap
    have hbody : '\n' ∉ c :: body := by simp [one_line, hc.symm]
    exact .comment hbody tail
  | last one_line ended =>
    cases hgap
    exact .last (by simp [one_line, hc.symm]) ended

theorem splitGap_gap (text : Text) : Gap (splitGap text).2 (splitGap text).1 ∧
    Gap (splitGap.splitComment text).2 ('#' :: (splitGap.splitComment text).1) := by
  induction text with
  | nil => exact ⟨.nil, .last List.not_mem_nil rfl⟩
  | cons c rest ih =>
    obtain ⟨hgap, hcomment⟩ := ih
    constructor
    · rw [splitGap]
      split_ifs with hblank hsharp
      · exact .blank hblank hgap
      · rw [hsharp]
        exact hcomment
      · exact .nil
    · rw [splitGap.splitComment]
      split_ifs with hbreak
      · rw [hbreak]
        have hbody : '\n' ∉ ([] : Text) := List.not_mem_nil
        exact .comment hbody hgap
      · exact hcomment.cons_comment hbreak

theorem splitComment_of_not_mem {body : Text} (h : '\n' ∉ body) (next : Text) :
    splitGap.splitComment (body ++ '\n' :: next) =
        (body ++ '\n' :: (splitGap next).1, (splitGap next).2) ∧
      splitGap.splitComment body = (body, []) := by
  induction body with
  | nil => simp [splitGap.splitComment]
  | cons c rest ih =>
    obtain ⟨hc, hrest⟩ : ¬ '\n' = c ∧ '\n' ∉ rest := by simpa using h
    obtain ⟨hnext, hend⟩ := ih hrest
    simp [splitGap.splitComment, Ne.symm hc, hnext, hend]

/-- A gap ends where a token can begin. -/
theorem splitGap_of_gap {left gap : Text} (h : Gap left gap)
    (hleft : ∀ c ∈ left.head?, isBlank c = false ∧ c ≠ '#') :
    splitGap (gap ++ left) = (gap, left) := by
  induction h with
  | nil =>
    cases left with
    | nil => rfl
    | cons c rest =>
      obtain ⟨hblank, hsharp⟩ := hleft c rfl
      simp [splitGap, hblank, hsharp]
  | blank is_blank _ ih => simp [splitGap, is_blank, ih]
  | @comment body rest one_line _ ih =>
    have hcomment := (splitComment_of_not_mem one_line (rest ++ left)).1
    rw [ih] at hcomment
    simp [splitGap, not_isBlank_sharp, hcomment]
  | @last body one_line ended =>
    have hcomment := (splitComment_of_not_mem one_line []).2
    simp [splitGap, not_isBlank_sharp, ended, hcomment]

/-- Behind a gap that is not empty a word or a number has ended. -/
theorem Gap.maximal {left gap : Text} (h : Gap left gap) (hne : gap ≠ []) (kind : TokenKind)
    (rest : Text) : Maximal kind (gap ++ rest) := by
  cases h with
  | nil => exact absurd rfl hne
  | blank is_blank => exact maximal_cons (isIdentifierChar_eq_false_of_isBlank is_blank) kind _
  | comment | last => exact maximal_cons (by decide +kernel) kind _

end Morphotactics
