import Mathlib
import Morphotactics.Proofs.Segmentation.Discovery

/-! What is found in a word, measured by the word: how much of it the surface of an analysis gives
back, and how much has been cut away. -/
namespace Morphotactics

namespace Condition

/-- The number of characters that are cut from a stem. -/
def cutLength (c : Condition) (stem : Text) : Nat :=
  if !c.replaces ∧ 0 < c.cut ∧ c.cut ≤ stem.length then c.cut.toNat else 0

variable {c : Condition} {stem root : Text}

theorem cut_of_not_replaces (hc : c.replaces = false) (h : c.apply stem = .ok root) :
    root <+: stem ∧ stem.length = root.length + c.cutLength stem := by
  unfold apply at h
  unfold cutLength
  rw [hc, if_neg Bool.false_ne_true] at h
  rw [hc]
  split_ifs at h with hcut
  · obtain rfl := Except.ok.inj h
    refine ⟨List.take_prefix _ stem, ?_⟩
    rw [if_pos ⟨rfl, hcut⟩, List.length_take]
    omega
  · obtain rfl := Except.ok.inj h
    rw [if_neg fun h => hcut h.2]
    exact ⟨List.prefix_rfl, rfl⟩

end Condition

/-- The suffixes can be stripped from a word one after the other, the last of the list first. They
leave a root, and as many characters as the number says have been cut from the stems. -/
inductive Grammar.Trims (g : Grammar) (word : Text) :
    List Grammar.OwnedSuffix → Text → Bool → Nat → Prop
  | nil : g.Trims word [] word false 0
  | cons {chain : List Grammar.OwnedSuffix} {remainder : Text} {changed : Bool} {removed : Nat}
      {owned : Grammar.OwnedSuffix} {stem root : Text}
      (outer : g.Trims word chain remainder changed removed)
      (declared : owned ∈ g.suffixes) (long : 4 ≤ remainder.length)
      (strips : owned.2.Strips remainder stem root) :
      g.Trims word (owned :: chain) root (changed || root != stem)
        (removed + owned.2.condition.cutLength stem)

/-- On the way to the analysis so many characters of the word are cut away. -/
def Grammar.TrimsTo (g : Grammar) (word : Text) (a : Analysis) (removed : Nat) : Prop :=
  ∃ chain, g.Trims word chain a.root a.transformed removed ∧
    a.suffixes = chain.map Grammar.OwnedSuffix.analysis

/-- The search comes to give the analysis, whatever it comes to afterwards. -/
def Grammar.Yields (g : Grammar) (word : Text) (a : Analysis) : Prop :=
  ∃ n found, discover g word n = .ok found ∧ a ∈ found

/-- No condition of the grammar puts in a text. -/
def Grammar.OnlyCuts (g : Grammar) : Prop :=
  ∀ owned ∈ g.suffixes, owned.2.condition.replaces = false

variable {g : Grammar} {word : Text}

theorem strips_of_yields {a : Analysis} (h : g.Yields word a) : g.Strips word a := by
  obtain ⟨n, found, hdiscover, ha⟩ := h
  exact strips_of_mem_discover hdiscover a ha

/-- A search without a limit gives nothing else. -/
theorem yields_of_mem_discoverAll {all : List Analysis} (h : discoverAll g word = some (.ok all)) :
    ∀ a ∈ all, g.Yields word a := by
  obtain ⟨s, hleads, rfl, -⟩ := Search.leads_of_discoverAll h
  exact fun a ha => ⟨_, _, Search.discover_of_leads hleads, ha⟩

namespace Grammar

variable {chain : List Grammar.OwnedSuffix} {root : Text} {changed : Bool} {removed : Nat}

theorem Strippable.exists_trims (h : g.Strippable word chain root changed) :
    ∃ removed, g.Trims word chain root changed removed := by
  induction h with
  | nil => exact ⟨0, .nil⟩
  | cons _ declared long strips ih =>
    obtain ⟨removed, houter⟩ := ih
    exact ⟨_, .cons houter declared long strips⟩

/-- A root whose suffixes have left their stems alone spells the word together with them. -/
theorem Strippable.spells (h : g.Strippable word chain root changed) (hchanged : changed = false) :
    root ++ chain.flatMap (·.2.suffix) = word := by
  induction h with
  | nil => exact List.append_nil word
  | cons _ _ _ strips ih =>
    obtain ⟨houter, hroot⟩ := Bool.or_eq_false_iff.mp hchanged
    obtain rfl := bne_eq_false_iff_eq.mp hroot
    rw [List.flatMap_cons, ← List.append_assoc, ← strips.spelled]
    exact ih houter

section OnlyCuts

theorem Trims.root_prefix (hg : g.OnlyCuts) (h : g.Trims word chain root changed removed) :
    root <+: word := by
  induction h with
  | nil => exact List.prefix_rfl
  | @cons _ _ _ _ owned stem _ _ declared _ strips ih =>
    have hroot := (Condition.cut_of_not_replaces (hg owned declared) strips.applies).1
    have hstem : stem <+: _ := strips.spelled ▸ List.prefix_append stem owned.2.suffix
    exact hroot.trans (hstem.trans ih)

/-- Each suffix takes its length from the word, and what its condition cuts from the stem. -/
theorem Trims.word_length (hg : g.OnlyCuts) (h : g.Trims word chain root changed removed) :
    word.length = (root ++ chain.flatMap (·.2.suffix)).length + removed := by
  induction h with
  | nil => simp
  | @cons _ _ _ _ owned stem _ _ declared _ strips ih =>
    have hroot := (Condition.cut_of_not_replaces (hg owned declared) strips.applies).2
    have htext := congrArg List.length strips.spelled
    rw [List.length_append] at htext ih ⊢
    rw [List.flatMap_cons, List.length_append]
    omega

/-- Without replacements a stem has been changed exactly if something has been cut from it. -/
theorem Trims.changed_iff (hg : g.OnlyCuts) (h : g.Trims word chain root changed removed) :
    changed = false ↔ removed = 0 := by
  induction h with
  | nil => exact iff_of_true rfl rfl
  | @cons _ _ _ _ owned stem root _ declared _ strips ih =>
    obtain ⟨hbegins, hlength⟩ :=
      Condition.cut_of_not_replaces (hg owned declared) strips.applies
    have hsame : root = stem ↔ owned.2.condition.cutLength stem = 0 :=
      ⟨fun h => by rw [h] at hlength; omega, fun h => hbegins.eq_of_length (by omega)⟩
    rw [Bool.or_eq_false_iff, ih, bne_eq_false_iff_eq, hsame]
    omega

end OnlyCuts

end Grammar

theorem Analysis.surface_of_chain {a : Analysis} {chain : List Grammar.OwnedSuffix}
    (h : a.suffixes = chain.map Grammar.OwnedSuffix.analysis) :
    a.surface = a.root ++ chain.flatMap (·.2.suffix) := by
  rw [surface, h, List.flatMap_map]
  rfl

/-- What the search gives is an analysis of the word. Its surface is the word if no suffix has
changed its stem. Where conditions only cut, nothing but that makes the surface the word: the root
is the front of the word, and the word is longer than the surface by what has been cut away. -/
theorem surface_of_yields {a : Analysis} (h : g.Yields word a) :
    a.word = word ∧ (a.transformed = false → a.surface = word) ∧
      (g.OnlyCuts →
        a.root <+: word ∧ (∃ removed, g.TrimsTo word a removed) ∧
          (∀ removed, g.TrimsTo word a removed → word.length = a.surface.length + removed) ∧
            (a.transformed = false ↔ a.surface = word)) := by
  obtain ⟨chain, root, changed, hstrippable, rfl⟩ := (strips_of_yields h).strippable
  set a := (Remainder.ofChain chain root changed).analysis word
  have hsurface : a.surface = a.root ++ chain.flatMap (·.2.suffix) := Analysis.surface_of_chain rfl
  have hspells : a.transformed = false → a.surface = word := fun hchanged =>
    hsurface.trans (hstrippable.spells hchanged)
  refine ⟨rfl, hspells, fun hg => ?_⟩
  obtain ⟨removed, htrims⟩ := hstrippable.exists_trims
  have hlength : ∀ removed, g.TrimsTo word a removed →
      word.length = a.surface.length + removed := by
    rintro removed ⟨chain, htrims, hsuffixes⟩
    rw [Analysis.surface_of_chain hsuffixes]
    exact htrims.word_length hg
  have htrimsTo : g.TrimsTo word a removed := ⟨chain, htrims, rfl⟩
  refine ⟨htrims.root_prefix hg, ⟨removed, htrimsTo⟩, hlength, hspells, fun hword => ?_⟩
  have hremoved := hlength removed htrimsTo
  rw [hword] at hremoved
  exact (htrims.changed_iff hg).mpr (by omega)

namespace Clipping

/-- A suffix behind which the last character of the stem is cut. -/
def plural : SuffixDefinition where
  suffix := ['l', 'a', 'r']
  description := "plural".toList
  condition := { cut := 1 }

def grammar : Grammar :=
  .ofDeclarations 1 [.set ['c'] [] [plural]]

theorem grammar_onlyCuts : grammar.OnlyCuts := by
  have hsuffixes : grammar.suffixes = [(⟨['c'], [], .ofList [(plural.suffix, plural)]⟩, plural)] :=
    rfl
  rw [Grammar.OnlyCuts, hsuffixes, List.forall_mem_singleton]
  rfl

def analysis : Analysis where
  root := "ota".toList
  suffixes := [⟨['l', 'a', 'r'], "plural".toList, ['c'], "lar::plural".toList⟩]
  word := "otaxlar".toList
  transformed := true

theorem yields : grammar.Yields "otaxlar".toList analysis := by
  have hdiscover : discover grammar "otaxlar".toList 1 = .ok [analysis] := by cbv
  exact ⟨1, [analysis], hdiscover, List.mem_singleton_self analysis⟩

end Clipping

/-- The surface `otalar` is shorter than the word by the character that has been cut from `otax`. -/
theorem clipping_surface :
    Clipping.grammar.Yields "otaxlar".toList Clipping.analysis ∧ Clipping.grammar.OnlyCuts ∧
      Clipping.analysis.root <+: "otaxlar".toList ∧
      Clipping.analysis.surface ≠ "otaxlar".toList ∧
      Clipping.grammar.TrimsTo "otaxlar".toList Clipping.analysis 1 := by
  obtain ⟨-, -, honly⟩ := surface_of_yields Clipping.yields
  obtain ⟨hbegins, ⟨removed, htrims⟩, hlength, hsurface⟩ := honly Clipping.grammar_onlyCuts
  have hremoved : 7 = 6 + removed := hlength removed htrims
  obtain rfl : removed = 1 := by omega
  have hchanged : Clipping.analysis.surface ≠ "otaxlar".toList := fun h =>
    Bool.false_ne_true (hsurface.mpr h).symm
  exact ⟨Clipping.yields, Clipping.grammar_onlyCuts, hbegins, hchanged, htrims⟩

end Morphotactics
