import Morphotactics.Proofs.Segmentation.Exploring
import Morphotactics.Proofs.Sorting

/-! Analyses by rank. The best one is optimal among all chains that can be stripped from the word,
and the word itself is the last. -/
namespace Morphotactics

namespace Analysis

theorem before_iff {a b : Analysis} : a.before b ↔ b.suffixes.length < a.suffixes.length ∨
    a.suffixes.length = b.suffixes.length ∧ a.root.length ≤ b.root.length := by
  simp [before]

theorem before_trans (a b c : Analysis) (hab : a.before b) (hbc : b.before c) : a.before c := by
  rw [before_iff] at *
  omega

theorem before_total (a b : Analysis) : a.before b || b.before a := by
  rw [Bool.or_eq_true, before_iff, before_iff]
  omega

end Analysis

theorem rank_pairwise (analyses : List Analysis) :
    (rank analyses).Pairwise fun a b => a.before b :=
  List.pairwise_mergeSort Analysis.before_trans Analysis.before_total analyses

theorem rank_perm (analyses : List Analysis) : (rank analyses).Perm analyses :=
  List.mergeSort_perm analyses Analysis.before

/-- The analysis of the highest rank is the first one that no other is ranked before. -/
theorem exists_split_of_head?_rank {analyses : List Analysis} {best : Analysis}
    (h : (rank analyses).head? = some best) :
    ∃ before after, analyses = before ++ best :: after ∧ (∀ a ∈ before, !a.before best) ∧
      ∀ a ∈ analyses, best.before a := by
  obtain ⟨before, after, rfl, hbefore, hafter⟩ :=
    exists_split_of_head?_mergeSort Analysis.before_trans Analysis.before_total h
  refine ⟨before, after, rfl, hbefore, fun a ha => ?_⟩
  have hsame : best.before best := by simpa using Analysis.before_total best best
  obtain ha | ha := List.mem_append.mp ha
  · have hnot : a.before best = false := by simpa using hbefore a ha
    simpa [hnot] using Analysis.before_total a best
  · obtain rfl | ha := List.mem_cons.mp ha
    · exact hsame
    · exact hafter a ha

variable {g : Grammar} {word : Text}

theorem segmentations_of_discoverAll {found : List Analysis}
    (h : discoverAll g word = some (.ok found)) : segmentations g none word = .ok found := by
  simp only [segmentations, budgetOf, h]

/-- A search without a limit that ends has found all chains that can be stripped. -/
theorem mem_of_strippable (hg : g.WellKeyed) {found : List Analysis}
    (h : discoverAll g word = some (.ok found)) (hlong : 2 ≤ word.length)
    {chain : List Grammar.OwnedSuffix} {root : Text} {changed : Bool}
    (hstrippable : g.Strippable word chain root changed) :
    (Remainder.ofChain chain root changed).analysis word ∈ found := by
  have hfound := segmentations_of_discoverAll h
  have hs : g.Settles word := exists_segmentations_iff_settles.mp ⟨found, hfound⟩
  obtain ⟨found', hfound', hcomplete⟩ := segmentations_complete hs hlong
  obtain rfl := Except.ok.inj (hfound.symm.trans hfound')
  exact hcomplete _ ⟨_, reaches_of_strippable hg hstrippable, rfl⟩

/-- Of all that is found only the word itself has no suffixes. -/
theorem filter_bare_of_discoverAll {found : List Analysis} (hlong : 2 ≤ word.length)
    (h : discoverAll g word = some (.ok found)) :
    found.filter (·.suffixes.isEmpty) = [.identity word] := by
  obtain ⟨children, visited, hnext, hfollows, rfl⟩ := (discoverAll_eq_ok_iff hlong).mp h
  obtain ⟨-, rfl⟩ := Remainder.next_eq_ok_iff.mp hnext
  have hvisited : ∀ a ∈ visited.map (·.analysis word), ¬ a.suffixes.isEmpty = true := by
    intro a ha
    obtain ⟨r, hr, rfl⟩ := List.mem_map.mp ha
    obtain ⟨child, hchild, hreach⟩ := (mem_found_iff hfollows).mp hr
    rw [List.isEmpty_iff]
    exact chain_ne_nil_of_reaches hchild hreach
  rw [Analysis.ofRemainders, List.filter_append, List.filter_eq_nil_iff.mpr hvisited]
  rfl

/-- The word itself is ranked last, and nothing else has no suffixes. -/
theorem rank_bare {found : List Analysis} (hlong : 2 ≤ word.length)
    (h : discoverAll g word = some (.ok found)) :
    (rank found).getLast? = some (.identity word) ∧
      (rank found).filter (·.suffixes.isEmpty) = [.identity word] := by
  have hbare : (rank found).filter (·.suffixes.isEmpty) = [.identity word] := by
    have hperm := (rank_perm found).filter (·.suffixes.isEmpty)
    rw [filter_bare_of_discoverAll hlong h] at hperm
    exact List.perm_singleton.mp hperm
  -- An analysis with suffixes is never ranked behind one without.
  have hsuffixed : (rank found).Pairwise fun a b => !b.suffixes.isEmpty → !a.suffixes.isEmpty := by
    refine (rank_pairwise found).imp fun {a b} hbefore hb => ?_
    rw [Analysis.before_iff] at hbefore
    rw [Bool.not_eq_true', List.isEmpty_eq_false_iff, ← List.length_pos_iff] at hb ⊢
    omega
  have hsplit := eq_filter_append_filter hsuffixed
  simp only [Bool.not_not] at hsplit
  rw [hbare] at hsplit
  refine ⟨?_, hbare⟩
  rw [hsplit, List.getLast?_concat]

/-- The analysis can be stripped from the word and has the most suffixes of all that can, among
those with as many a root that is as short as any, and among those ties it comes first in the
list. -/
structure Grammar.Optimal (g : Grammar) (word : Text) (found : List Analysis) (best : Analysis) :
    Prop where
  strips : g.Strips word best
  most : ∀ chain root changed, g.Strippable word chain root changed →
    chain.length ≤ best.suffixes.length
  shortest : ∀ chain root changed, g.Strippable word chain root changed →
    chain.length = best.suffixes.length → best.root.length ≤ root.length
  earliest : found ≠ [] → ∃ before after, found = before ++ best :: after ∧
    ∀ a ∈ before, ¬ (a.suffixes.length = best.suffixes.length ∧ a.root.length = best.root.length)

theorem optimal_of_head?_rank (hg : g.WellKeyed) {found : List Analysis} {best : Analysis}
    (h : discoverAll g word = some (.ok found)) (hlong : 2 ≤ word.length)
    (hbest : (rank found).head? = some best) : g.Optimal word found best := by
  obtain ⟨before, after, hsplit, hbefore, hall⟩ := exists_split_of_head?_rank hbest
  have hmem : best ∈ found := by
    rw [hsplit]
    exact List.mem_append_right before List.mem_cons_self
  have hranked : ∀ chain root changed, g.Strippable word chain root changed →
      chain.length < best.suffixes.length ∨
        best.suffixes.length = chain.length ∧ best.root.length ≤ root.length := by
    intro chain root changed hstrippable
    have hbefore := Analysis.before_iff.mp (hall _ (mem_of_strippable hg h hlong hstrippable))
    simpa [Remainder.analysis, Remainder.ofChain] using hbefore
  refine ⟨strips_of_mem_discoverAll h best hmem, fun chain root changed hstrippable => ?_,
    fun chain root changed hstrippable hsame => ?_, fun _ => ⟨before, after, hsplit, ?_⟩⟩
  · have := hranked chain root changed hstrippable
    omega
  · have := hranked chain root changed hstrippable
    omega
  · rintro a ha ⟨hsuffixes, hroot⟩
    have hnot : a.before best = false := by simpa using hbefore a ha
    have htie : a.before best := Analysis.before_iff.mpr (.inr ⟨hsuffixes, hroot.le⟩)
    exact Bool.false_ne_true (hnot.symm.trans htie)

/-- Nothing can be stripped from a word that is too short to be found itself. -/
theorem optimal_of_short (hlong : ¬ 2 ≤ word.length) : g.Optimal word [] (.identity word) := by
  have hnil : ∀ chain root changed, g.Strippable word chain root changed → chain = [] := by
    intro chain root changed hstrippable
    by_contra hne
    have := hstrippable.word_long hne
    omega
  refine ⟨identity_strips, fun chain root changed hstrippable => ?_,
    fun chain root changed hstrippable _ => ?_, fun hne => absurd rfl hne⟩
  · rw [hnil chain root changed hstrippable]
    exact Nat.zero_le _
  · obtain rfl := hnil chain root changed hstrippable
    cases hstrippable
    exact Nat.le_refl _

theorem Grammar.Optimal.eq_identity {found : List Analysis} {best : Analysis}
    (h : g.Optimal word found best)
    (hnil : ∀ chain root changed, g.Strippable word chain root changed → chain = []) :
    best = .identity word := by
  obtain ⟨chain, root, changed, hstrippable, rfl⟩ := h.strips.strippable
  obtain rfl := hnil chain root changed hstrippable
  cases hstrippable
  rfl

/-- Where the search for all segmentations of a word ends without an error, ranking rearranges what
it finds. The word itself, if it is found, comes last, and nothing else has no suffixes. The best
analysis is optimal among all chains that can be stripped, and the word itself where there is
none. -/
theorem analyzeBest_optimal (hg : g.Declared) {found : List Analysis}
    (h : discoverAll g word = some (.ok found)) :
    ∃ ranked best, analyzeAll g none word = .ok ranked ∧ analyzeBest g none word = .ok best ∧
      ranked.Perm found ∧
      (2 ≤ word.length → ranked.getLast? = some (.identity word) ∧
        ranked.filter (·.suffixes.isEmpty) = [.identity word]) ∧
      g.Optimal word found best ∧
      ((∀ chain root changed, g.Strippable word chain root changed → chain = []) →
        best = .identity word) := by
  have hranked : analyzeAll g none word = .ok (rank found) :=
    analyzeAll_eq_ok_iff.mpr ⟨found, segmentations_of_discoverAll h, rfl⟩
  have hbest : analyzeBest g none word = .ok ((rank found).headD (.identity word)) :=
    bind_eq_ok_iff.mpr ⟨rank found, hranked, rfl⟩
  have hoptimal : g.Optimal word found ((rank found).headD (.identity word)) := by
    by_cases hlong : 2 ≤ word.length
    · have hne : rank found ≠ [] := fun hnil => by
        simpa [hnil] using (rank_bare hlong h).1
      obtain ⟨best, more, hsplit⟩ := List.exists_cons_of_ne_nil hne
      have hhead : (rank found).head? = some best := by rw [hsplit]; rfl
      have hbest : (rank found).headD (.identity word) = best := by rw [hsplit]; rfl
      rw [hbest]
      exact optimal_of_head?_rank hg.wellKeyed h hlong hhead
    · have hnone : discoverAll g word = some (.ok []) := if_pos (Nat.lt_of_not_le hlong)
      obtain rfl := Except.ok.inj (Option.some.inj (hnone.symm.trans h))
      have hword : (rank []).headD (.identity word) = .identity word := by simp [rank]
      rw [hword]
      exact optimal_of_short hlong
  exact ⟨rank found, _, hranked, hbest, rank_perm found, fun hlong => rank_bare hlong h, hoptimal,
    hoptimal.eq_identity⟩

namespace Mutation

def outer : Analysis where
  root := "otlal".toList
  suffixes := [⟨['g', 'a'], "dative".toList, ['c'], "ga::dative".toList⟩]
  word := "otlarga".toList
  transformed := true

def best : Analysis where
  root := "otl".toList
  suffixes := ⟨['l'], "plural".toList, ['c'], "l::plural".toList⟩ :: outer.suffixes
  word := "otlarga".toList
  transformed := true

def found : List Analysis :=
  [outer, best, .identity "otlarga".toList]

theorem discoverAll_eq : discoverAll grammar "otlarga".toList = some (.ok found) := by
  have hfound : (discover grammar "otlarga".toList 4).toOption = some found := by cbv
  exact discoverAll_of_discover (eq_ok_of_toOption hfound) (by decide)

theorem analyzeBest_eq : analyzeBest grammar none "otlarga".toList = .ok best := by
  have hrank : (rank found).head? = some best := by cbv
  obtain ⟨more, hsplit⟩ := List.head?_eq_some_iff.mp hrank
  have hranked : analyzeAll grammar none "otlarga".toList = .ok (rank found) :=
    analyzeAll_eq_ok_iff.mpr ⟨found, segmentations_of_discoverAll discoverAll_eq, rfl⟩
  rw [analyzeBest, hranked, hsplit]
  rfl

end Mutation

/-- The best analysis of `otlarga` has two suffixes. It is the second one that is found. -/
theorem mutation_analyzeBest :
    Mutation.grammar.Declared ∧
      discoverAll Mutation.grammar "otlarga".toList = some (.ok Mutation.found) ∧
      analyzeBest Mutation.grammar none "otlarga".toList = .ok Mutation.best ∧
      Mutation.grammar.Optimal "otlarga".toList Mutation.found Mutation.best := by
  obtain ⟨-, best, -, hbest, -, -, hoptimal, -⟩ :=
    analyzeBest_optimal Mutation.grammar_declared Mutation.discoverAll_eq
  obtain rfl := Except.ok.inj (hbest.symm.trans Mutation.analyzeBest_eq)
  exact ⟨Mutation.grammar_declared, Mutation.discoverAll_eq, hbest, hoptimal⟩

end Morphotactics
