import Mathlib
import Morphotactics.Proofs.Annotation
import Morphotactics.Proofs.Formation
import Morphotactics.Proofs.Grammar.Evaluation
import Morphotactics.Proofs.Grammar.RuleId
import Morphotactics.Proofs.Segmentation.Building
import Morphotactics.Proofs.Segmentation.Exploring

/-! Forms and analyses in grammars that change no stem: what a rule builds is recognized, and what
is recognized can be built. -/
namespace Morphotactics

/-- A set, or a set that is optional. -/
def Element.IsReference (e : Element) : Prop :=
  ∃ name, e = .setRef name ∨ e = .optional (.setRef name)

/-- An element that makes forms with just the suffixes it takes. -/
def Element.IsReversible : Element → Prop
  | .literal _ | .glossed _ | .optional (.glossed _) => False
  | .setRef _ | .optional _ => True

/-- No set that is optional is referred to again by a later element. -/
def OptionsOnce (alternative : Alternative) : Prop :=
  alternative.Pairwise fun e later =>
    ∀ name, e = .optional (.setRef name) → later.reference? ≠ some name

variable {g : Grammar}

theorem Element.takes_setRef_iff {name : Text} {s : SuffixAnalysis} :
    (Element.setRef name).takes s ↔ s.category = name :=
  decide_eq_true_iff

theorem attaches_of_makes (hg : g.WellKeyed) (hp : g.Plain) {name word form : Text}
    (h : g.Makes (.setRef name) word form) :
    ∃ owned ∈ g.suffixes, owned.2.condition.holds word = .ok true ∧
      form = word ++ owned.2.suffix ∧ (Element.setRef name).takes owned.analysis := by
  cases h with
  | @setRef _ _ stem set d declared listed holds applies =>
    have hmem := Grammar.mem_suffixes_of_suffixSet declared listed
    have hstem := Condition.apply_of_not_transforms (hp.keeps _ hmem) word
    obtain rfl := Except.ok.inj (hstem.symm.trans applies)
    have hname := hg.name_of_suffixSet declared
    exact ⟨(set, d), hmem, holds, rfl, Element.takes_setRef_iff.mpr hname⟩

theorem makes_of_takes (hg : g.WellKeyed) (hp : g.Plain) {name word : Text}
    {owned : Grammar.OwnedSuffix} (howned : owned ∈ g.suffixes)
    (hholds : owned.2.condition.holds word = .ok true)
    (htakes : (Element.setRef name).takes owned.analysis) :
    g.Makes (.setRef name) word (word ++ owned.2.suffix) := by
  obtain ⟨hset, hlisted⟩ := hg.suffixSet_of_mem howned
  obtain rfl : owned.1.name = name := Element.takes_setRef_iff.mp htakes
  exact .setRef hset hlisted hholds
    (Condition.apply_of_not_transforms (hp.keeps owned howned) word)

/-- A form is built by a chain that goes with the alternative. -/
theorem builds_of_makesAll (hg : g.WellKeyed) (hp : g.Plain) {alternative : Alternative}
    {root form : Text} (h : g.MakesAll alternative root form)
    (href : ∀ e ∈ alternative, e.IsReference) :
    ∃ chain, g.Builds root chain form ∧
      Admits alternative (chain.map Grammar.OwnedSuffix.analysis) := by
  induction h with
  | nil => exact ⟨[], .nil, .nil⟩
  | cons first rest ih =>
    obtain ⟨he, hrest⟩ := List.forall_mem_cons.mp href
    obtain ⟨chain, hbuilds, hadmits⟩ := ih hrest
    obtain ⟨name, rfl | rfl⟩ := he
    · obtain ⟨owned, howned, hholds, rfl, htakes⟩ := attaches_of_makes hg hp first
      exact ⟨owned :: chain, .cons howned hholds hbuilds, .take htakes hadmits⟩
    · cases first with
      | skip => exact ⟨chain, hbuilds, .skip hadmits⟩
      | option made =>
        obtain ⟨owned, howned, hholds, rfl, htakes⟩ := attaches_of_makes hg hp made
        exact ⟨owned :: chain, .cons howned hholds hbuilds, .option htakes hadmits⟩

/-- A chain that goes with an alternative is one that the alternative builds a form with. -/
theorem makesAll_of_builds (hg : g.WellKeyed) (hp : g.Plain) {alternative : Alternative}
    {chain : List Grammar.OwnedSuffix} {root form : Text}
    (h : Admits alternative (chain.map Grammar.OwnedSuffix.analysis))
    (hbuilds : g.Builds root chain form) (hrev : ∀ e ∈ alternative, e.IsReversible) :
    g.MakesAll alternative root form := by
  -- By induction on the matching; each suffix it takes is the first that has been attached.
  generalize hs : chain.map Grammar.OwnedSuffix.analysis = suffixes at h
  induction h generalizing chain root with
  | nil =>
    obtain rfl := List.map_eq_nil_iff.mp hs
    cases hbuilds
    exact .nil
  | literal => exact (hrev _ List.mem_cons_self).elim
  | skip _ ih =>
    exact .cons .skip (ih hbuilds (List.forall_mem_cons.mp hrev).2 hs)
  | @option child s alternative _ htakes _ ih =>
    obtain ⟨owned, chain, rfl, rfl, rfl⟩ := List.map_eq_cons_iff.mp hs
    obtain ⟨he, hrest⟩ := List.forall_mem_cons.mp hrev
    cases hbuilds with
    | cons declared holds outer =>
      cases child with
      | setRef name =>
        exact .cons (.option (makes_of_takes hg hp declared holds htakes)) (ih outer hrest rfl)
      | glossed => exact he.elim
      | literal | optional => cases htakes
  | @take e s alternative _ htakes _ ih =>
    obtain ⟨owned, chain, rfl, rfl, rfl⟩ := List.map_eq_cons_iff.mp hs
    obtain ⟨he, hrest⟩ := List.forall_mem_cons.mp hrev
    cases hbuilds with
    | cons declared holds outer =>
      cases e with
      | setRef name =>
        exact .cons (makes_of_takes hg hp declared holds htakes) (ih outer hrest rfl)
      | glossed => exact he.elim
      | literal | optional => cases htakes

theorem clear_of_optionsOnce {alternative : Alternative} {chain : List SuffixAnalysis}
    (href : ∀ e ∈ alternative, e.IsReference) (honce : OptionsOnce alternative) :
    Clear chain alternative := by
  refine honce.imp_of_mem fun {e later} he hlater hone => ?_
  rintro child rfl s - htakes hconsumes
  obtain ⟨name, hname | hname⟩ := href _ he
  · cases hname
  · cases hname
    obtain rfl := Element.takes_setRef_iff.mp htakes
    refine hone _ rfl ?_
    obtain ⟨other, rfl | rfl⟩ := href _ hlater
    · exact congrArg some (Element.takes_setRef_iff.mp hconsumes).symm
    · exact congrArg some (Element.takes_setRef_iff.mp hconsumes).symm

theorem Grammar.Builds.length_le {root form : Text} {chain : List Grammar.OwnedSuffix}
    (h : g.Builds root chain form) : root.length ≤ form.length := by
  induction h with
  | nil => exact Nat.le_refl _
  | cons _ _ _ ih =>
    rw [List.length_append] at ih
    omega

/-- An analysis that can be stripped from a word is found, once for each rule that matches it. -/
theorem analyzeByRules_complete (hs : ∀ text, g.Settles text) (hc : g.Closed) {word : Text}
    (hlong : 2 ≤ word.length) :
    ∃ analyses, analyzeByRules g none word = .ok analyses ∧
      ∀ a, g.Strips word a → ∀ m ∈ g.allMatches a.suffixes,
        { a with matched := some m } ∈ analyses := by
  obtain ⟨found, hfound, hcomplete⟩ := segmentations_complete (hs word) hlong
  obtain ⟨analyses, hanalyses⟩ := Grammar.byRules_total hc (rank found)
  have hranked : analyzeAll g none word = .ok (rank found) :=
    analyzeAll_eq_ok_iff.mpr ⟨found, hfound, rfl⟩
  refine ⟨analyses, ?_, fun a ha m hm => ?_⟩
  · unfold analyzeByRules
    rw [hranked]
    dsimp only
    rw [hanalyses]
  · exact Grammar.matched_mem_byRules hanalyses hc (mem_rank.mpr (hcomplete a ha)) hm

/-- A matched analysis can be stripped from the word, and its match is one of its chain. -/
theorem of_matched_mem_analyzeByRules {limit : Option Int} {word : Text} {analyses : List Analysis}
    (h : analyzeByRules g limit word = .ok analyses) {a : Analysis} (ha : a ∈ analyses)
    {m : RuleMatch} (hm : a.matched = some m) :
    g.Closed ∧ m ∈ g.allMatches a.suffixes ∧ g.Strips word { a with matched := none } := by
  unfold analyzeByRules at h
  split at h
  · cases h
  · rename_i ranked hranked
    split at h
    · cases h
    · rename_i annotated hannotated
      obtain rfl := Except.ok.inj h
      obtain ⟨found, hfound, rfl⟩ := analyzeAll_eq_ok_iff.mp hranked
      have hstrips : ∀ b ∈ rank found, g.Strips word b := fun b hb =>
        strips_of_mem_segmentations hfound b (mem_rank.mp hb)
      have hnone : ∀ b ∈ rank found, b.matched = none := by
        intro b hb
        obtain ⟨r, -, rfl⟩ := hstrips b hb
        rfl
      obtain ⟨hclosed, hmatch, hmem⟩ := Grammar.of_matched_mem_byRules hannotated hnone ha hm
      exact ⟨hclosed, hmatch, hstrips _ hmem⟩

/-- In a grammar that changes no stem, every form that an alternative of sets and optional sets
builds from a root of three characters or more is recognized: one of its analyses has that root
and is matched by that alternative. -/
theorem recognized_of_built (hg : g.Declared) (hp : g.Plain) (hc : g.Closed) {name : Text}
    {rules : List Rule} (hrules : g.rulesNamed name = .ok rules) {rule : Rule} (hr : rule ∈ rules)
    {index : Nat} {alternative : Alternative} (ha : rule.alternatives[index]? = some alternative)
    (href : ∀ e ∈ alternative, e.IsReference) (honce : OptionsOnce alternative) {root : Text}
    (hroot : 3 ≤ root.length) :
    ∃ forms, g.alternativeForms alternative [root] = .ok forms ∧ ∀ form ∈ forms,
      ∃ analyses, analyzeByRules g none form = .ok analyses ∧ ∃ a ∈ analyses, a.root = root ∧
        ∃ m, a.matched = some m ∧ m.id = rule.id ∧ m.alternative = index := by
  have hkeyed := hg.wellKeyed
  have hall := Grammar.mem_allRules_of_rulesNamed hrules hr
  have hresolves := hc rule hall alternative (List.mem_of_getElem? ha)
  obtain ⟨forms, hforms⟩ := Grammar.alternativeForms_total hp.compiles hresolves [root]
  refine ⟨forms, hforms, fun form hform => ?_⟩
  obtain ⟨_, hmem, hmakes⟩ := (Grammar.mem_alternativeForms hforms).mp hform
  obtain rfl := List.mem_singleton.mp hmem
  obtain ⟨chain, hbuilds, hadmits⟩ := builds_of_makesAll hkeyed hp hmakes href
  have haccepts := accepts_of_admits hadmits (clear_of_optionsOnce href honce)
  have hlong : 2 ≤ form.length := by
    have := hbuilds.length_le
    omega
  obtain ⟨analyses, hanalyses, hcomplete⟩ := analyzeByRules_complete hp.settles hc hlong
  have hstrips : g.Strips form ((Remainder.ofChain chain _ false).analysis form) :=
    ⟨_, reaches_of_strippable hkeyed (strippable_of_builds hp hkeyed hbuilds hroot), rfl⟩
  have hmatch := Grammar.mem_allMatches.mpr ⟨rule, hall, index, alternative, ha, haccepts, rfl⟩
  exact ⟨analyses, hanalyses, _, hcomplete _ hstrips _ hmatch, rfl, _, rfl, rfl, rfl⟩

namespace Noun

def plural : SuffixDefinition where
  suffix := "lar".toList
  description := "plural".toList

def dative : SuffixDefinition where
  suffix := "ga".toList
  description := "dative".toList
  condition := { kind := .endsWith, pattern := ['r'] }

def number : SuffixSet where
  name := ['p']
  description := []
  suffixes := .ofList [(plural.suffix, plural)]

def ending : SuffixSet where
  name := ['c']
  description := []
  suffixes := .ofList [(dative.suffix, dative)]

/-- An optional number before an ending. -/
def alternative : Alternative :=
  [.optional (.setRef ['p']), .setRef ['c']]

def rule : Rule where
  name := ['n']
  description := []
  alternatives := [alternative]
  serial := 1

def grammar : Grammar :=
  .ofDeclarations 1 [.set ['p'] [] [plural], .set ['c'] [] [dative], .rule ['n'] [] [alternative]]

theorem grammar_declared : grammar.Declared := by
  have hread : declarationsOf? 3
      ("SUFFIX p \x7b lar: \"plural\" \x7d ".toList ++
        "SUFFIX c \x7b ga: \"dative\" WHEN ENDSWITH /r/ \x7d ".toList ++
          "RULE n \x7b [@p] @c \x7d".toList) =
        some [.set ['p'] [] [plural], .set ['c'] [] [dative], .rule ['n'] [] [alternative]] := by
    cbv
  exact Grammar.declared_of_declarationsOf? hread

theorem grammar_suffixes : grammar.suffixes = [(number, plural), (ending, dative)] :=
  rfl

theorem grammar_allRules : grammar.allRules = [rule] :=
  rfl

theorem grammar_plain : grammar.Plain := by
  constructor
  · rw [grammar_suffixes, List.forall_mem_cons, List.forall_mem_singleton]
    exact ⟨rfl, rfl⟩
  · rw [Grammar.Compiles, grammar_suffixes, List.forall_mem_cons, List.forall_mem_singleton]
    refine ⟨nofun, fun _ => ?_⟩
    have hread : (Pattern.Node.read (Pattern.anchored .closing ['r'])).toOption.isSome := by cbv
    obtain ⟨node, hnode⟩ := Option.isSome_iff_exists.mp hread
    exact ⟨node, eq_ok_of_toOption hnode⟩

theorem grammar_closed : grammar.Closed := by
  have hnumber : grammar.Resolves (.optional (.setRef ['p'])) := by
    intro name h
    obtain rfl := Option.some.inj h
    exact ⟨number, rfl⟩
  have hending : grammar.Resolves (.setRef ['c']) := by
    intro name h
    obtain rfl := Option.some.inj h
    exact ⟨ending, rfl⟩
  have helements : ∀ e ∈ alternative, grammar.Resolves e :=
    List.forall_mem_cons.mpr ⟨hnumber, List.forall_mem_singleton.mpr hending⟩
  rw [Grammar.Closed, grammar_allRules, List.forall_mem_singleton]
  exact List.forall_mem_singleton.mpr helements

theorem alternative_isReference : ∀ e ∈ alternative, e.IsReference := by
  rw [alternative, List.forall_mem_cons, List.forall_mem_singleton]
  exact ⟨⟨_, .inr rfl⟩, _, .inl rfl⟩

theorem alternative_optionsOnce : OptionsOnce alternative := by
  simp [OptionsOnce, alternative, Element.reference?]

theorem alternative_isReversible : ∀ e ∈ alternative, e.IsReversible := by
  rw [alternative, List.forall_mem_cons, List.forall_mem_singleton]
  exact ⟨trivial, trivial⟩

/-- The analysis of `otalarga` that the rule matches with both suffixes. -/
def analysis : Analysis where
  root := "ota".toList
  suffixes := [Grammar.OwnedSuffix.analysis (number, plural),
    Grammar.OwnedSuffix.analysis (ending, dative)]
  word := "otalarga".toList
  matched := some ⟨['n'], [], rule.id, 0⟩

end Noun

/-- The only form of `ota` has both suffixes, and is recognized. -/
theorem noun_recognized :
    Noun.grammar.Declared ∧ Noun.grammar.Plain ∧ Noun.grammar.Closed ∧
      (∀ e ∈ Noun.alternative, e.IsReference) ∧ OptionsOnce Noun.alternative ∧
        Noun.grammar.alternativeForms Noun.alternative ["ota".toList] = .ok ["otalarga".toList] ∧
          ∃ analyses, analyzeByRules Noun.grammar none "otalarga".toList = .ok analyses ∧
            ∃ a ∈ analyses, a.root = "ota".toList ∧
              ∃ m, a.matched = some m ∧ m.id = Noun.rule.id ∧ m.alternative = 0 := by
  have hbuilt : Noun.grammar.alternativeForms Noun.alternative ["ota".toList] =
      .ok ["otalarga".toList] := by
    cbv
  have hrules : Noun.grammar.rulesNamed ['n'] = .ok [Noun.rule] := rfl
  have hfirst : Noun.rule.alternatives[0]? = some Noun.alternative := rfl
  have hroot : 3 ≤ "ota".toList.length := by decide
  refine ⟨Noun.grammar_declared, Noun.grammar_plain, Noun.grammar_closed,
    Noun.alternative_isReference, Noun.alternative_optionsOnce, hbuilt, ?_⟩
  obtain ⟨forms, hforms, hall⟩ := recognized_of_built Noun.grammar_declared Noun.grammar_plain
    Noun.grammar_closed hrules List.mem_cons_self hfirst Noun.alternative_isReference
    Noun.alternative_optionsOnce hroot
  obtain rfl := Except.ok.inj (hbuilt.symm.trans hforms)
  exact hall _ List.mem_cons_self

/-- In a grammar that changes no stem, the word of an analysis that an alternative matches is among
the forms that the rule builds from the root of the analysis, if the alternative has no elements
that only the matching or only the building passes over. -/
theorem built_of_recognized (hg : g.Declared) (hp : g.Plain) {limit : Option Int} {word : Text}
    {analyses : List Analysis} (h : analyzeByRules g limit word = .ok analyses) {a : Analysis}
    (ha : a ∈ analyses) {m : RuleMatch} (hm : a.matched = some m) {rule : Rule}
    (hr : rule ∈ g.allRules) (hid : rule.id = m.id) {alternative : Alternative}
    (halternative : rule.alternatives[m.alternative]? = some alternative)
    (hrev : ∀ e ∈ alternative, e.IsReversible) :
    ∃ forms, g.forms m.rule a.root = .ok forms ∧ word ∈ forms := by
  have hkeyed := hg.wellKeyed
  obtain ⟨hclosed, hmatch, hstrips⟩ := of_matched_mem_analyzeByRules h ha hm
  obtain ⟨rule', hr', index, alternative', halternative', haccepts, rfl⟩ :=
    Grammar.mem_allMatches.mp hmatch
  obtain rfl := hkeyed.eq_of_id hr hr' hid
  obtain rfl := Option.some.inj (halternative.symm.trans halternative')
  obtain ⟨rules, hrules, hmem⟩ := hkeyed.mem_allRules.mp hr
  obtain ⟨forms, hforms⟩ := Grammar.forms_total hp.compiles hrules
    (fun rule hr => hclosed rule (Grammar.mem_allRules_of_rulesNamed hrules hr)) a.root
  refine ⟨forms, hforms, (Grammar.mem_forms hrules hforms).mpr
    ⟨rule, hmem, alternative, List.mem_of_getElem? halternative, ?_⟩⟩
  obtain ⟨chain, root, changed, hstrippable, hanalysis⟩ := hstrips.strippable
  have hbuilds := builds_of_strippable hp hstrippable
  have hroot : a.root = root := congrArg Analysis.root hanalysis
  have hchain : a.suffixes = chain.map Grammar.OwnedSuffix.analysis :=
    congrArg Analysis.suffixes hanalysis
  rw [hroot]
  rw [hchain] at haccepts
  exact makesAll_of_builds hkeyed hp (admits_of_accepts haccepts) hbuilds hrev

/-- The form that `otalarga` has been recognized as is built from its root. -/
theorem noun_built :
    Noun.grammar.Declared ∧ Noun.grammar.Plain ∧
      (∃ analyses, analyzeByRules Noun.grammar (some 2) "otalarga".toList = .ok analyses ∧
        Noun.analysis ∈ analyses) ∧
          ∃ forms, Noun.grammar.forms ['n'] "ota".toList = .ok forms ∧
            "otalarga".toList ∈ forms := by
  have hfound : (analyzeByRules Noun.grammar (some 2) "otalarga".toList).toOption.any
      (·.contains Noun.analysis) = true := by
    cbv
  obtain ⟨analyses, hanalyses, hmem⟩ := (Option.any_eq_true _ _).mp hfound
  have hok := eq_ok_of_toOption hanalyses
  have ha : Noun.analysis ∈ analyses := List.contains_iff_mem.mp hmem
  have hmatched : Noun.analysis.matched = some ⟨['n'], [], Noun.rule.id, 0⟩ := rfl
  have hrule : Noun.rule ∈ Noun.grammar.allRules := by
    rw [Noun.grammar_allRules]
    exact List.mem_cons_self
  have hid : Noun.rule.id = (⟨['n'], [], Noun.rule.id, 0⟩ : RuleMatch).id := rfl
  have hfirst : Noun.rule.alternatives[0]? = some Noun.alternative := rfl
  have hbuilt := built_of_recognized Noun.grammar_declared Noun.grammar_plain hok ha hmatched hrule
    hid hfirst Noun.alternative_isReversible
  exact ⟨Noun.grammar_declared, Noun.grammar_plain, ⟨analyses, hok, ha⟩, hbuilt⟩

end Morphotactics
