import Mathlib
import Morphotactics.Proofs.Grammar.Evaluation
import Morphotactics.Proofs.Segmentation.Reaching
import Morphotactics.Proofs.Segmentation.Settling

/-! Exactness of the search: every chain of suffixes that can be stripped from a word is found once,
and nothing else is. -/
namespace Morphotactics

/-- The suffixes can be stripped from a word one after the other, the last of the list first. They
leave a root, and the flag says that one of them changed its stem. -/
inductive Grammar.Strippable (g : Grammar) (word : Text) :
    List Grammar.OwnedSuffix → Text → Bool → Prop
  | nil : g.Strippable word [] word false
  | cons {chain : List Grammar.OwnedSuffix} {remainder : Text} {changed : Bool}
      {owned : Grammar.OwnedSuffix} {stem root : Text}
      (outer : g.Strippable word chain remainder changed)
      (declared : owned ∈ g.suffixes) (long : 4 ≤ remainder.length)
      (strips : owned.2.Strips remainder stem root) :
      g.Strippable word (owned :: chain) root (changed || root != stem)

def Analysis.keys (a : Analysis) : List (Text × Text) :=
  a.suffixes.map SuffixAnalysis.key

/-- What is left when the suffixes of a chain have been stripped. -/
def Remainder.ofChain (chain : List Grammar.OwnedSuffix) (root : Text) (changed : Bool) :
    Remainder where
  root := root
  chain := chain.map Grammar.OwnedSuffix.analysis
  transformed := changed

theorem Remainder.keys_ofChain (chain : List Grammar.OwnedSuffix) (root : Text) (changed : Bool) :
    (ofChain chain root changed).keys = chain.map Grammar.OwnedSuffix.key := by
  simp only [keys, ofChain, List.map_map]
  rfl

variable {g : Grammar} {word : Text}

theorem reaches_of_strippable (hg : g.WellKeyed) {chain : List Grammar.OwnedSuffix} {root : Text}
    {changed : Bool} (h : g.Strippable word chain root changed) :
    g.Reaches (.start word) (.ofChain chain root changed) := by
  induction h with
  | nil => exact Relation.ReflTransGen.refl
  | cons _ declared long strips ih =>
    refine ih.tail (Remainder.mem_children.mpr ⟨long, _, declared, _, _, ?_, rfl⟩)
    exact SuffixDefinition.strip_of_strips (hg.suffix_ne_nil_of_mem declared) strips

theorem strippable_of_reaches {r : Remainder} (h : g.Reaches (.start word) r) :
    ∃ chain root changed, g.Strippable word chain root changed ∧
      r = .ofChain chain root changed := by
  induction h with
  | refl => exact ⟨[], word, false, .nil, rfl⟩
  | tail _ hchild ih =>
    obtain ⟨chain, root, changed, hstrippable, rfl⟩ := ih
    obtain ⟨hlong, owned, howned, stem, root', hstrip, rfl⟩ := Remainder.mem_children.mp hchild
    exact ⟨owned :: chain, root', _, .cons hstrippable howned hlong
      (SuffixDefinition.strips_of_strip hstrip).2, rfl⟩

/-- Stripping leads from a word to what is left of its strippable chains. -/
theorem mem_found_start_iff (hg : g.WellKeyed) {found : List Remainder}
    (h : Follows g ((Remainder.start word).children g) (.ok found)) {r : Remainder} :
    r ∈ found ↔ ∃ chain root changed, chain ≠ [] ∧ g.Strippable word chain root changed ∧
      r = .ofChain chain root changed := by
  rw [mem_found_iff h]
  constructor
  · rintro ⟨child, hchild, hreach⟩
    obtain ⟨chain, root, changed, hstrippable, rfl⟩ :=
      strippable_of_reaches (reaches_iff.mpr (.inr ⟨child, hchild, hreach⟩))
    refine ⟨chain, root, changed, ?_, hstrippable, rfl⟩
    -- A child has one key at least, and none is lost below it.
    rintro rfl
    obtain ⟨key, hkeys⟩ := keys_of_mem_children hchild
    have := (keys_suffix_of_reaches hreach).length_le
    simp [hkeys, Remainder.keys_ofChain] at this
  · rintro ⟨chain, root, changed, hne, hstrippable, rfl⟩
    refine (reaches_iff.mp (reaches_of_strippable hg hstrippable)).resolve_left fun he => hne ?_
    exact (List.map_eq_nil_iff.mp (congrArg Remainder.chain he).symm)

/-- In a list without repeated keys, an element is all that has its key. -/
private theorem filter_key_eq {α β : Type} [DecidableEq α] [DecidableEq β] {key : α → β}
    {l : List α} (hnodup : (l.map key).Nodup) {a : α} (ha : a ∈ l) :
    l.filter (fun b => key b = key a) = [a] := by
  have hcongr : l.filter (fun b => key b = key a) = l.filter (fun b => b = a) := by
    refine List.filter_congr fun b hb => ?_
    rw [decide_eq_decide]
    exact ⟨fun h => List.inj_on_of_nodup_map hnodup hb ha h, congrArg key⟩
  rw [hcongr, List.filter_eq, List.count_eq_one_of_mem hnodup.of_map ha, List.replicate_one]

theorem Analysis.mem_ofRemainders {found : List Remainder} {a : Analysis} :
    a ∈ ofRemainders word found ↔ (∃ r ∈ found, a = r.analysis word) ∨ a = identity word := by
  simp only [ofRemainders, List.mem_append, List.mem_map, List.mem_singleton, eq_comm]

theorem ofRemainders_keys_nodup (hg : g.WellKeyed) {found : List Remainder}
    (h : Follows g ((Remainder.start word).children g) (.ok found)) :
    ((Analysis.ofRemainders word found).map Analysis.keys).Nodup := by
  have hkeys : (Analysis.ofRemainders word found).map Analysis.keys =
      found.map Remainder.keys ++ [[]] := by
    simp only [Analysis.ofRemainders, List.map_append, List.map_map]
    rfl
  rw [hkeys, List.nodup_append']
  refine ⟨found_keys_nodup hg h (children_apart hg _), List.nodup_singleton _, ?_⟩
  intro keys hfound hnil
  obtain ⟨r, hr, rfl⟩ := List.mem_map.mp hfound
  obtain ⟨chain, root, changed, hne, -, rfl⟩ := (mem_found_start_iff hg h).mp hr
  rw [Remainder.keys_ofChain, List.mem_singleton, List.map_eq_nil_iff] at hnil
  exact hne hnil

theorem Grammar.Strippable.word_long {chain : List Grammar.OwnedSuffix} {root : Text}
    {changed : Bool} (h : g.Strippable word chain root changed) (hne : chain ≠ []) :
    4 ≤ word.length := by
  induction h with
  | nil => exact absurd rfl hne
  | @cons chain _ _ _ _ _ outer _ long _ ih =>
    cases outer with
    | nil => exact long
    | cons => exact ih (List.cons_ne_nil _ _)

/-- Where the search ends and meets no malformed pattern, it gives each chain of suffixes that can
be stripped from the word once, with the root it leaves, and no other; and last of all, if it is
long enough for a root, the word itself. -/
theorem segmentations_exact (hg : g.Declared) (hs : g.Settles word) :
    ∃ found, segmentations g none word = .ok found ∧
      (∀ chain root changed, chain ≠ [] → g.Strippable word chain root changed →
        found.filter (fun a => a.keys = chain.map Grammar.OwnedSuffix.key) =
          [{ root, suffixes := chain.map Grammar.OwnedSuffix.analysis, word,
             transformed := changed }]) ∧
      (∀ a ∈ found, a.suffixes ≠ [] → ∃ chain root changed,
        g.Strippable word chain root changed ∧ a.keys = chain.map Grammar.OwnedSuffix.key) ∧
      found.filter (·.suffixes.isEmpty) = (if 2 ≤ word.length then [.identity word] else []) ∧
      (2 ≤ word.length → found.getLast? = some (.identity word)) := by
  have hkeyed := hg.wellKeyed
  by_cases hlong : 2 ≤ word.length
  · obtain ⟨found, hfollows, hfound⟩ := segmentations_of_settles hlong hs
    have hnodup := ofRemainders_keys_nodup hkeyed hfollows
    refine ⟨_, hfound, fun chain root changed hne hstrippable => ?_, fun a ha hne => ?_, ?_, ?_⟩
    · have hmem : (Remainder.ofChain chain root changed).analysis word ∈
          Analysis.ofRemainders word found :=
        Analysis.mem_ofRemainders.mpr (.inl ⟨_, (mem_found_start_iff hkeyed hfollows).mpr
          ⟨chain, root, changed, hne, hstrippable, rfl⟩, rfl⟩)
      have hkeys : ((Remainder.ofChain chain root changed).analysis word).keys =
          chain.map Grammar.OwnedSuffix.key := Remainder.keys_ofChain chain root changed
      rw [← hkeys]
      exact filter_key_eq hnodup hmem
    · obtain ⟨r, hr, rfl⟩ | rfl := Analysis.mem_ofRemainders.mp ha
      · obtain ⟨chain, root, changed, -, hstrippable, rfl⟩ :=
          (mem_found_start_iff hkeyed hfollows).mp hr
        exact ⟨chain, root, changed, hstrippable, Remainder.keys_ofChain chain root changed⟩
      · exact absurd rfl hne
    · have hidentity := filter_key_eq hnodup (Analysis.mem_ofRemainders.mpr (.inr rfl))
      rw [if_pos hlong, ← hidentity]
      refine List.filter_congr fun a _ => ?_
      cases hsuffixes : a.suffixes <;> simp [Analysis.keys, Analysis.identity, hsuffixes]
    · exact fun _ => List.getLast?_concat
  · refine ⟨[], segmentations_of_short (Nat.lt_of_not_le hlong), ?_, by simp, by simp [hlong],
      fun h => absurd h hlong⟩
    intro chain root changed hne hstrippable
    have := hstrippable.word_long hne
    omega

namespace Mutation

def dative : SuffixDefinition where
  suffix := "ga".toList
  description := "dative".toList
  condition := { kind := .endsWith, pattern := ['r'], replacement := ['l'] }

def plural : SuffixDefinition where
  suffix := ['l']
  description := "plural".toList
  condition := { cut := 1 }

def ending : SuffixSet where
  name := ['c']
  description := []
  suffixes := .ofList [(dative.suffix, dative), (plural.suffix, plural)]

/-- A grammar with two suffixes that both change their stems. -/
def grammar : Grammar :=
  .ofDeclarations 1 [.set ['c'] [] [dative, plural]]

theorem grammar_declared : grammar.Declared := by
  have hread : declarationsOf? 1
      ("SUFFIX c \x7b ga: \"dative\" WHEN ENDSWITH /r/ REPLACE \"l\", ".toList ++
        "l: \"plural\" WHEN CUT 1 \x7d".toList) = some [.set ['c'] [] [dative, plural]] := by
    cbv
  exact Grammar.declared_of_declarationsOf? hread

theorem grammar_suffixes : grammar.suffixes = [(ending, dative), (ending, plural)] :=
  rfl

theorem strip_dative :
    dative.strip "otlarga".toList = .ok (some ("otlar".toList, "otlal".toList)) := by
  cbv

theorem strip_plural : plural.strip "otlal".toList = .ok (some ("otla".toList, "otl".toList)) := by
  cbv

theorem settles : grammar.Settles "otlarga".toList := by
  have hplural : plural.strip "otlarga".toList = .ok none := by cbv
  have hdative : dative.strip "otlal".toList = .ok none := by cbv
  have hroot : grammar.Settles "otlal".toList := by
    refine settles_of_strips ?_
    rw [grammar_suffixes, List.forall_mem_cons, List.forall_mem_singleton]
    exact ⟨.inl hdative, .inr ⟨_, _, strip_plural, settles_of_short (Nat.le_refl 3)⟩⟩
  refine settles_of_strips ?_
  rw [grammar_suffixes, List.forall_mem_cons, List.forall_mem_singleton]
  exact ⟨.inr ⟨_, _, strip_dative, hroot⟩, .inl hplural⟩

theorem strippable : grammar.Strippable "otlarga".toList [(ending, plural), (ending, dative)]
    "otl".toList true := by
  have hdative : (ending, dative).2.Strips _ _ _ :=
    (SuffixDefinition.strips_of_strip strip_dative).2
  have hplural : (ending, plural).2.Strips _ _ _ :=
    (SuffixDefinition.strips_of_strip strip_plural).2
  have hdeclared : (ending, dative) ∈ grammar.suffixes ∧ (ending, plural) ∈ grammar.suffixes := by
    simp [grammar_suffixes]
  exact .cons (.cons .nil hdeclared.1 (by decide) hdative) hdeclared.2 (by decide) hplural

end Mutation

/-- Both suffixes are stripped from `otlarga`, the second from what the first has changed. -/
theorem mutation_segmentations_exact :
    Mutation.grammar.Declared ∧ Mutation.grammar.Settles "otlarga".toList ∧
      ∃ found, segmentations Mutation.grammar none "otlarga".toList = .ok found ∧
        found.filter (fun a => a.keys = [(['c'], ['l']), (['c'], ['g', 'a'])]) =
          [{ root := "otl".toList, word := "otlarga".toList, transformed := true,
             suffixes := [⟨['l'], "plural".toList, ['c'], "l::plural".toList⟩,
               ⟨['g', 'a'], "dative".toList, ['c'], "ga::dative".toList⟩] }] := by
  obtain ⟨found, hfound, hchains, -⟩ :=
    segmentations_exact Mutation.grammar_declared Mutation.settles
  exact ⟨Mutation.grammar_declared, Mutation.settles, found, hfound,
    hchains _ _ _ (List.cons_ne_nil _ _) Mutation.strippable⟩

end Morphotactics
