import Morphotactics.Proofs.Annotation

/-! The declarative reading of alternatives: an alternative derives a chain that can be cut into
pieces, one for each of its elements. Matching looks at one suffix at a time and never goes back.
It accepts only what is derived, and all of it unless an option could be in the way. -/
namespace Morphotactics

/-- An element and a piece of a chain that it stands for. -/
inductive Element.Covers : Element → List SuffixAnalysis → Prop
  | literal {text : Text} : Covers (.literal text) []
  | setRef {name : Text} {s : SuffixAnalysis} (category : s.category = name) :
      Covers (.setRef name) [s]
  | glossed {glosses : Table Text} {s : SuffixAnalysis} (key : s.suffix ∈ glosses.keys) :
      Covers (.glossed glosses) [s]
  | absent {child : Element} : Covers (.optional child) []
  | present {child : Element} {piece : List SuffixAnalysis} (inner : Covers child piece) :
      Covers (.optional child) piece

/-- The chain is cut into consecutive pieces, one for each element. -/
def Derives (alternative : Alternative) (chain : List SuffixAnalysis) : Prop :=
  ∃ pieces, List.Forall₂ Element.Covers alternative pieces ∧ pieces.flatten = chain

/-- No option of the alternative is the option of an option. -/
def Alternative.Unnested (alternative : Alternative) : Prop :=
  ∀ child, Element.optional (.optional child) ∉ alternative

section Pieces

variable {e child : Element} {s : SuffixAnalysis} {piece : List SuffixAnalysis}

theorem Element.takes_iff : e.takes s ↔ e.Covers [s] ∧ ∀ child, e ≠ .optional child := by
  cases e with
  | literal text => simp [takes, show ¬ Covers (.literal text) [s] from nofun]
  | optional child => simp [takes]
  | setRef name =>
    refine ⟨fun h => ⟨.setRef (of_decide_eq_true h), nofun⟩, ?_⟩
    rintro ⟨hcovers, -⟩
    cases hcovers with
    | setRef category => exact decide_eq_true category
  | glossed glosses =>
    refine ⟨fun h => ⟨.glossed (List.elem_iff.mp h), nofun⟩, ?_⟩
    rintro ⟨hcovers, -⟩
    cases hcovers with
    | glossed key => exact List.elem_iff.mpr key

/-- What is no option stands for a suffix that it takes, or for nothing if it is a literal. -/
theorem Element.Covers.cases (h : e.Covers piece) (hplain : ∀ child, e ≠ .optional child) :
    (∃ text, e = .literal text ∧ piece = []) ∨ ∃ s, e.takes s ∧ piece = [s] := by
  cases h with
  | literal => exact .inl ⟨_, rfl, rfl⟩
  | setRef category => exact .inr ⟨_, takes_iff.mpr ⟨.setRef category, hplain⟩, rfl⟩
  | glossed key => exact .inr ⟨_, takes_iff.mpr ⟨.glossed key, hplain⟩, rfl⟩
  | absent | present => exact absurd rfl (hplain _)

end Pieces

section Derivations

variable {e : Element} {alternative : Alternative} {piece chain : List SuffixAnalysis}

theorem Derives.nil : Derives [] [] :=
  ⟨[], .nil, rfl⟩

theorem Derives.cons (first : e.Covers piece) (rest : Derives alternative chain) :
    Derives (e :: alternative) (piece ++ chain) := by
  obtain ⟨pieces, hcovers, rfl⟩ := rest
  exact ⟨piece :: pieces, .cons first hcovers, rfl⟩

theorem derives_of_admits (h : Admits alternative chain) : Derives alternative chain := by
  induction h with
  | nil => exact .nil
  | literal _ ih => exact .cons .literal ih
  | skip _ ih => exact .cons .absent ih
  | option taken _ ih => exact .cons (.present (Element.takes_iff.mp taken).1) ih
  | take taken _ ih => exact .cons (Element.takes_iff.mp taken).1 ih

theorem admits_of_derives (h : Derives alternative chain) (hunnested : alternative.Unnested) :
    Admits alternative chain := by
  obtain ⟨pieces, hcovers, rfl⟩ := h
  induction hcovers with
  | nil => exact .nil
  | @cons e piece rest pieces first _ ih =>
    have hrest : Admits rest pieces.flatten :=
      ih fun child hmem => hunnested child (List.mem_cons_of_mem e hmem)
    rw [List.flatten_cons]
    by_cases hoption : ∃ child, e = .optional child
    · obtain ⟨child, rfl⟩ := hoption
      cases first with
      | absent => exact .skip hrest
      | present inner =>
        -- The child is no option itself, so that it takes a suffix or is a literal.
        have hplain : ∀ grandchild, child ≠ .optional grandchild := by
          rintro grandchild rfl
          exact hunnested grandchild List.mem_cons_self
        obtain ⟨text, -, rfl⟩ | ⟨s, taken, rfl⟩ := inner.cases hplain
        · exact .skip hrest
        · exact .option taken hrest
    · obtain ⟨text, rfl, rfl⟩ | ⟨s, taken, rfl⟩ := first.cases (not_exists.mp hoption)
      · exact .literal hrest
      · exact .take taken hrest

end Derivations

/-- An alternative matches only chains that it derives. It matches all of them if no option is the
option of an option, and no suffix of the chain fits both an option and a later element. -/
theorem accepts_derives (alternative : Alternative) (chain : List SuffixAnalysis) :
    (accepts alternative chain → Derives alternative chain) ∧
      (alternative.Unnested → Clear chain alternative →
        (accepts alternative chain ↔ Derives alternative chain)) := by
  have hsound : accepts alternative chain → Derives alternative chain :=
    fun h => derives_of_admits (admits_of_accepts h)
  refine ⟨hsound, fun hunnested hclear => ⟨hsound, fun h => ?_⟩⟩
  exact accepts_of_admits (admits_of_derives h hunnested) hclear

/-- An option that takes a suffix leaves none for the element that needs it, though the option could
be passed over. -/
example : accepts [.optional (.setRef ['a']), .setRef ['a']] [⟨['x'], [], ['a'], []⟩] = false := by
  decide

namespace Possession

def plural : SuffixAnalysis := ⟨"lar".toList, [], "plural".toList, []⟩

def dative : SuffixAnalysis := ⟨"ga".toList, [], "case".toList, []⟩

/-- The chain has no suffix for the second option, and the literal takes none. -/
def alternative : Alternative :=
  [.optional (.setRef "plural".toList), .literal ['-'],
    .optional (.glossed (.ofList [("im".toList, "my".toList), ("ing".toList, "your".toList)])),
    .setRef "case".toList]

theorem alternative_unnested : alternative.Unnested := by
  simp [Alternative.Unnested, alternative]

theorem alternative_clear : Clear [plural, dative] alternative := by
  have hplural : ¬ (Element.setRef "case".toList).consumes plural := by decide
  have hglossed : ∀ s ∈ [plural, dative], ¬ (Element.glossed (.ofList
      [("im".toList, "my".toList), ("ing".toList, "your".toList)])).takes s := by
    decide
  have hdative : ¬ (Element.setRef "plural".toList).takes dative := by decide
  simp_all [Clear, alternative, Element.consumes, Element.takes]

end Possession

/-- A chain of two suffixes is derived by passing over the second option, and is accepted. -/
theorem possession_derived :
    Possession.alternative.Unnested ∧
      Clear [Possession.plural, Possession.dative] Possession.alternative ∧
        Derives Possession.alternative [Possession.plural, Possession.dative] ∧
          accepts Possession.alternative [Possession.plural, Possession.dative] := by
  have hunnested := Possession.alternative_unnested
  have hclear := Possession.alternative_clear
  have hcovers : List.Forall₂ Element.Covers Possession.alternative
      [[Possession.plural], [], [], [Possession.dative]] :=
    .cons (.present (.setRef rfl)) (.cons .literal (.cons .absent (.cons (.setRef rfl) .nil)))
  have hderives : Derives Possession.alternative [Possession.plural, Possession.dative] :=
    ⟨_, hcovers, rfl⟩
  exact ⟨hunnested, hclear, hderives, ((accepts_derives _ _).2 hunnested hclear).mpr hderives⟩

end Morphotactics
