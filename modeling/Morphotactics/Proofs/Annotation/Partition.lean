import Morphotactics.Proofs.Annotation
import Morphotactics.Proofs.Grammar.Evaluation
import Morphotactics.Proofs.Grammar.RuleId
import Morphotactics.Proofs.Segmentation.Ranking
import Mathlib.Data.List.Nodup

/-! The order of annotated analyses: what matches a rule is put in front, and nothing else is moved,
since the analyses are ranked before they are copied. -/
namespace Morphotactics

theorem flatMap_singletons {α : Type} {q : α → Prop} [DecidablePred q] (l : List α) :
    (l.flatMap fun a => if q a then [a] else []) = l.filter q := by
  induction l with
  | nil => rfl
  | cons a rest ih =>
    rw [List.flatMap_cons, ih, List.filter_cons]
    by_cases ha : q a <;> simp [ha]

namespace Analysis

theorem ahead_iff {a b : Analysis} : a.ahead b ↔
    if a.matched.isSome = b.matched.isSome then a.before b else a.matched.isSome := by
  unfold ahead
  split_ifs <;> rfl

theorem isSome_of_ahead {a b : Analysis} (h : a.ahead b) (hb : b.matched.isSome) :
    a.matched.isSome := by
  rw [ahead_iff] at h
  split_ifs at h with heq
  · rwa [heq]
  · exact h

theorem ahead_trans (a b c : Analysis) (hab : a.ahead b) (hbc : b.ahead c) : a.ahead c := by
  rw [ahead_iff] at *
  have htrans := before_trans a b c
  cases ha : a.matched.isSome <;> cases hb : b.matched.isSome <;> cases hc : c.matched.isSome <;>
    simp_all

theorem ahead_total (a b : Analysis) : a.ahead b || b.ahead a := by
  rw [Bool.or_eq_true, ahead_iff, ahead_iff]
  have htotal := before_total a b
  rw [Bool.or_eq_true] at htotal
  cases ha : a.matched.isSome <;> cases hb : b.matched.isSome <;> simp_all

/-- An analysis with a match, and else as it was. -/
def annotated (a : Analysis) (m : RuleMatch) : Analysis :=
  { a with matched := some m }

variable {a : Analysis}

theorem filter_copies (h : a.matched = none) (found : List RuleMatch) :
    (a.copies found).filter (·.matched.isSome) = found.map a.annotated ∧
      (a.copies found).filter (!·.matched.isSome) = if found = [] then [a] else [] := by
  cases found with
  | nil => simp [copies, h]
  | cons first more =>
    constructor
    · exact List.filter_eq_self.mpr (List.forall_mem_map.mpr fun m _ => rfl)
    · exact List.filter_eq_nil_iff.mpr (List.forall_mem_map.mpr fun m _ => by simp)

end Analysis

namespace Grammar

variable {g : Grammar} {analyses : List Analysis} {name : Text}

/-- The rules refer to this set, which is not declared, and to no other such set before. -/
def FirstMissing (g : Grammar) (name : Text) : Prop :=
  ∃ before after, g.references = before ++ name :: after ∧
    (∀ earlier ∈ before, ∃ set, g.suffixSet earlier = .ok set) ∧
      ¬ ∃ set, g.suffixSet name = .ok set

theorem firstUndeclared?_eq_some_iff :
    g.firstUndeclared? g.references = some name ↔ g.FirstMissing name := by
  simp only [firstUndeclared?, List.find?_eq_some_iff_append, FirstMissing, Bool.not_not,
    Bool.not_eq_true', ← contains_iff_suffixSet, Bool.not_eq_true]
  constructor
  · rintro ⟨hmissing, before, after, hreferences, hbefore⟩
    exact ⟨before, after, hreferences, hbefore, hmissing⟩
  · rintro ⟨before, after, hreferences, hbefore, hmissing⟩
    exact ⟨hmissing, before, after, hreferences, hbefore⟩

theorem exists_firstMissing (h : ¬ g.Closed) : ∃ name, g.FirstMissing name := by
  rw [← firstUndeclared?_eq_none_iff, ← ne_eq, Option.ne_none_iff_exists'] at h
  obtain ⟨name, hname⟩ := h
  exact ⟨name, firstUndeclared?_eq_some_iff.mp hname⟩

theorem annotateAll_of_missing (h : g.FirstMissing name) (hne : analyses ≠ []) :
    g.annotateAll analyses = .error (.suffixSet name) := by
  obtain ⟨a, rest, rfl⟩ := List.exists_cons_of_ne_nil hne
  have hmatches : g.matchesOf a.suffixes = .error (.suffixSet name) := by
    rw [matchesOf_eq, ifDeclared, firstUndeclared?_eq_some_iff.mpr h]
  rw [annotateAll, annotate, hmatches]
  rfl

theorem pairwise_matchesOf (rule : Rule) (chain : List SuffixAnalysis) :
    (rule.matchesOf chain).Pairwise fun m n => m.alternative < n.alternative := by
  have hindices : rule.alternatives.zipIdx.Pairwise fun a b => a.2 < b.2 := by
    rw [← List.pairwise_map (f := Prod.snd), List.zipIdx_map_snd]
    exact List.pairwise_lt_range' 1
  rw [Rule.matchesOf, List.pairwise_filterMap]
  refine hindices.imp fun {a b} hlt m hm n hn => ?_
  obtain ⟨-, hm⟩ := Option.ite_none_right_eq_some.mp hm
  obtain ⟨-, hn⟩ := Option.ite_none_right_eq_some.mp hn
  rwa [← Option.some.inj hm, ← Option.some.inj hn]

/-- No match of a chain is found twice. -/
theorem WellKeyed.nodup_allMatches (hg : g.WellKeyed) (chain : List SuffixAnalysis) :
    ((g.allMatches chain).map fun m => (m.id, m.alternative)).Nodup := by
  rw [List.Nodup, List.pairwise_map, allMatches, List.pairwise_flatMap]
  constructor
  · intro rule _
    refine (pairwise_matchesOf rule chain).imp fun {m n} hlt heq => ?_
    exact Nat.ne_of_lt hlt (Prod.mk.inj heq).2
  · refine (List.pairwise_map.mp hg.serial_nodup).imp fun {r s} hne m hm n hn heq => hne ?_
    obtain ⟨_, _, -, -, rfl⟩ := Rule.mem_matchesOf.mp hm
    obtain ⟨_, _, -, -, rfl⟩ := Rule.mem_matchesOf.mp hn
    exact Rule.serial_of_id (Prod.mk.inj heq).1

/-- The matched copies of the analyses, in the order of these, and then of the rules. -/
def matchedCopies (g : Grammar) (analyses : List Analysis) : List Analysis :=
  analyses.flatMap fun a => (g.allMatches a.suffixes).map a.annotated

def unmatched (g : Grammar) (analyses : List Analysis) : List Analysis :=
  analyses.filter fun a => g.allMatches a.suffixes = []

theorem filter_flatMap_copies (hnone : ∀ a ∈ analyses, a.matched = none) :
    (analyses.flatMap fun a => a.copies (g.allMatches a.suffixes)).filter (·.matched.isSome) =
        g.matchedCopies analyses ∧
      (analyses.flatMap fun a => a.copies (g.allMatches a.suffixes)).filter
        (!·.matched.isSome) = g.unmatched analyses := by
  rw [List.filter_flatMap, List.filter_flatMap]
  constructor
  · exact List.flatMap_congr fun a ha => (Analysis.filter_copies (hnone a ha) _).1
  · rw [List.flatMap_congr fun a ha => (Analysis.filter_copies (hnone a ha) _).2]
    exact flatMap_singletons analyses

theorem pairwise_matchedCopies (hranked : analyses.Pairwise fun a b => a.before b) :
    (g.matchedCopies analyses).Pairwise fun a b => a.ahead b := by
  have hcopies : ∀ {a b : Analysis}, a.before b → ∀ found more : List RuleMatch,
      ∀ x ∈ found.map a.annotated, ∀ y ∈ more.map b.annotated, x.ahead y := by
    intro a b hab found more x hx y hy
    obtain ⟨m, -, rfl⟩ := List.mem_map.mp hx
    obtain ⟨n, -, rfl⟩ := List.mem_map.mp hy
    exact Analysis.ahead_iff.mpr hab
  rw [matchedCopies, List.pairwise_flatMap]
  refine ⟨fun a _ => ?_, hranked.imp fun hab => hcopies hab _ _⟩
  have hself : a.before a := by
    simpa using Analysis.before_total a a
  exact List.pairwise_of_forall_mem_list (hcopies hself _ _)

/-- Of ranked analyses the matched copies come first, and then those without a match. -/
theorem byRules_of_closed (hc : g.Closed) (hranked : analyses.Pairwise fun a b => a.before b)
    (hnone : ∀ a ∈ analyses, a.matched = none) :
    g.byRules analyses = .ok (g.matchedCopies analyses ++ g.unmatched analyses) := by
  obtain ⟨hmatched, hunmatched⟩ := filter_flatMap_copies (g := g) hnone
  have hcopies : (g.matchedCopies analyses).Pairwise fun a b => a.ahead b :=
    pairwise_matchedCopies hranked
  have hrest : (g.unmatched analyses).Pairwise fun a b => a.ahead b := by
    refine (hranked.filter _).imp_of_mem fun {a b} ha hb hab => Analysis.ahead_iff.mpr ?_
    rwa [if_pos (by rw [hnone a (List.mem_of_mem_filter ha), hnone b (List.mem_of_mem_filter hb)])]
  rw [byRules, annotateAll_of_closed hc]
  generalize analyses.flatMap (fun a => a.copies (g.allMatches a.suffixes)) = all at *
  have hsorted := List.pairwise_mergeSort Analysis.ahead_trans Analysis.ahead_total all
  -- Once sorted, the list is its matched part and then the rest, and neither has been reordered.
  have hsplit := eq_filter_append_filter (hsorted.imp Analysis.isSome_of_ahead)
  rw [filter_mergeSort_of_pairwise Analysis.ahead_trans Analysis.ahead_total (hmatched ▸ hcopies),
    filter_mergeSort_of_pairwise Analysis.ahead_trans Analysis.ahead_total (hunmatched ▸ hrest),
    hmatched, hunmatched] at hsplit
  exact congrArg Except.ok hsplit

end Grammar

section Word

variable {g : Grammar} {limit : Option Int} {word : Text} {analyses : List Analysis}

theorem analyzeAll_ranked (h : analyzeAll g limit word = .ok analyses) :
    (analyses.Pairwise fun a b => a.before b) ∧ ∀ a ∈ analyses, a.matched = none := by
  obtain ⟨found, hfound, rfl⟩ := analyzeAll_eq_ok_iff.mp h
  refine ⟨rank_pairwise found, fun a ha => ?_⟩
  obtain ⟨r, -, rfl⟩ := strips_of_mem_segmentations hfound a (mem_rank.mp ha)
  rfl

theorem analyzeByRules_of_analyzeAll (h : analyzeAll g limit word = .ok analyses) :
    analyzeByRules g limit word = (g.byRules analyses).mapError AnalysisError.unknown := by
  rw [analyzeByRules, h]
  dsimp only
  cases g.byRules analyses <;> rfl

theorem analyzeByRules_of_missing {name : Text} (h : analyzeAll g limit word = .ok analyses)
    (hne : analyses ≠ []) (hmissing : g.FirstMissing name) :
    analyzeByRules g limit word = .error (.unknown (.suffixSet name)) := by
  rw [analyzeByRules_of_analyzeAll h, Grammar.byRules,
    Grammar.annotateAll_of_missing hmissing hne]
  rfl

theorem analyzeByRules_of_closed (h : analyzeAll g limit word = .ok analyses)
    (hc : analyses ≠ [] → g.Closed) :
    analyzeByRules g limit word = .ok (g.matchedCopies analyses ++ g.unmatched analyses) := by
  have hbyRules : g.byRules analyses = .ok (g.matchedCopies analyses ++ g.unmatched analyses) := by
    by_cases hempty : analyses = []
    · subst hempty
      simp [Grammar.byRules, Grammar.annotateAll, Grammar.matchedCopies, Grammar.unmatched]
    · obtain ⟨hranked, hnone⟩ := analyzeAll_ranked h
      exact Grammar.byRules_of_closed (hc hempty) hranked hnone
  rw [analyzeByRules_of_analyzeAll h, hbyRules]
  rfl

/-- Annotation by rules loses no analysis and adds none. It fails exactly if there is an analysis and
the rules refer to a set that is not declared, and names the first such set. Else each analysis comes
once for each of its matches, and behind these all that have no match come as they are. -/
theorem analyzeByRules_partition (hg : g.Declared)
    (h : analyzeAll g limit word = .ok analyses) :
    ((∃ unknown, analyzeByRules g limit word = .error (.unknown unknown)) ↔
        analyses ≠ [] ∧ ¬ g.Closed) ∧
      (∀ error, analyzeByRules g limit word = .error error →
        ∃ name, g.FirstMissing name ∧ error = .unknown (.suffixSet name)) ∧
      ((analyses ≠ [] → g.Closed) →
        analyzeByRules g limit word = .ok (g.matchedCopies analyses ++ g.unmatched analyses)) ∧
      (∀ a ∈ analyses, a.matched = none ∧
        ((g.allMatches a.suffixes).map fun m => (m.id, m.alternative)).Nodup) := by
  have hnodup : ∀ a ∈ analyses, a.matched = none ∧
      ((g.allMatches a.suffixes).map fun m => (m.id, m.alternative)).Nodup :=
    fun a ha => ⟨(analyzeAll_ranked h).2 a ha, hg.wellKeyed.nodup_allMatches a.suffixes⟩
  by_cases hfails : analyses ≠ [] ∧ ¬ g.Closed
  · obtain ⟨hne, hopen⟩ := hfails
    obtain ⟨name, hname⟩ := Grammar.exists_firstMissing hopen
    rw [analyzeByRules_of_missing h hne hname]
    refine ⟨⟨fun _ => ⟨hne, hopen⟩, fun _ => ⟨_, rfl⟩⟩, fun error herror => ?_,
      fun hc => absurd (hc hne) hopen, hnodup⟩
    exact ⟨name, hname, (Except.error.inj herror).symm⟩
  · have hc : analyses ≠ [] → g.Closed := by
      simpa using hfails
    rw [analyzeByRules_of_closed h hc]
    refine ⟨⟨nofun, fun hfail => absurd hfail hfails⟩, nofun, fun _ => rfl, hnodup⟩

end Word

namespace Twice

/-- A rule of which both alternatives go with one suffix, and none goes without it. -/
def text : Text :=
  "SUFFIX s \x7b a: \"1\" \x7d RULE r \x7b @s, x + @s \x7d".toList

def rule : Rule :=
  ⟨['r'], [], [[.setRef ['s']], [.literal ['x'], .setRef ['s']]], 1⟩

def declarations : List Declaration :=
  [.set ['s'] [] [⟨['a'], ['1'], {}⟩], .rule rule.name rule.description rule.alternatives]

def grammar : Grammar :=
  .ofDeclarations 1 declarations

theorem grammar_declared : grammar.Declared := by
  have hread : declarationsOf? 3 text = some declarations := by cbv
  exact Grammar.declared_of_declarationsOf? hread

def stripped : Analysis where
  root := "kit".toList
  suffixes := [⟨['a'], ['1'], ['s'], "a::1".toList⟩]
  word := "kita".toList

theorem analyzed : analyzeAll grammar (some 3) "kita".toList =
    .ok [stripped, .identity "kita".toList] := by
  have hfound : (analyzeAll grammar (some 3) "kita".toList).toOption =
      some [stripped, .identity "kita".toList] := by
    cbv
  exact eq_ok_of_toOption hfound

theorem grammar_closed : grammar.Closed := by
  rw [← Grammar.firstUndeclared?_eq_none_iff]
  cbv

end Twice

/-- The analysis with a suffix comes once for each alternative, and the other behind it. -/
theorem twice_partition : Twice.grammar.Declared ∧
    analyzeAll Twice.grammar (some 3) "kita".toList =
      .ok [Twice.stripped, .identity "kita".toList] ∧
    analyzeByRules Twice.grammar (some 3) "kita".toList =
      .ok [Twice.stripped.annotated (Twice.rule.matchAt 0),
        Twice.stripped.annotated (Twice.rule.matchAt 1), .identity "kita".toList] := by
  have hall := analyzeByRules_partition Twice.grammar_declared Twice.analyzed
  have hparts : Twice.grammar.matchedCopies [Twice.stripped, .identity "kita".toList] ++
      Twice.grammar.unmatched [Twice.stripped, .identity "kita".toList] =
        [Twice.stripped.annotated (Twice.rule.matchAt 0),
          Twice.stripped.annotated (Twice.rule.matchAt 1), .identity "kita".toList] := by
    cbv
  exact ⟨Twice.grammar_declared, Twice.analyzed,
    (hall.2.2.1 fun _ => Twice.grammar_closed).trans (congrArg Except.ok hparts)⟩

end Morphotactics
