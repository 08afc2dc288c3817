import Morphotactics.Annotation
import Morphotactics.Proofs.Grammar.Sound

/-! Matching of chains with alternatives, and the analyses that come of it. -/
namespace Morphotactics

/-- An alternative goes with a chain if each optional element may take a suffix or not. -/
inductive Admits : Alternative → List SuffixAnalysis → Prop
  | nil : Admits [] []
  | literal {text : Text} {alternative : Alternative} {chain : List SuffixAnalysis}
      (rest : Admits alternative chain) : Admits (.literal text :: alternative) chain
  | skip {child : Element} {alternative : Alternative} {chain : List SuffixAnalysis}
      (rest : Admits alternative chain) : Admits (.optional child :: alternative) chain
  | option {child : Element} {s : SuffixAnalysis} {alternative : Alternative}
      {chain : List SuffixAnalysis} (taken : child.takes s) (rest : Admits alternative chain) :
      Admits (.optional child :: alternative) (s :: chain)
  | take {e : Element} {s : SuffixAnalysis} {alternative : Alternative}
      {chain : List SuffixAnalysis} (taken : e.takes s) (rest : Admits alternative chain) :
      Admits (e :: alternative) (s :: chain)

/-- Whether an element, or what is optional in it, can take a suffix. -/
def Element.consumes : Element → SuffixAnalysis → Bool
  | .optional child, s => child.takes s
  | e, s => e.takes s

theorem Element.consumes_of_takes {e : Element} {s : SuffixAnalysis} (h : e.takes s) :
    e.consumes s := by
  cases e with
  | optional child => cases h
  | literal | glossed | setRef => exact h

section Matching

variable {alternative : Alternative} {chain : List SuffixAnalysis}

theorem admits_of_accepts (h : accepts alternative chain) : Admits alternative chain := by
  fun_induction accepts alternative chain with
  | case1 chain =>
    obtain rfl := List.isEmpty_iff.mp h
    exact .nil
  | case2 text rest chain ih => exact .literal (ih h)
  | case3 child rest s chain htakes ih => exact .option htakes (ih h)
  | case4 child rest s chain _ ih => exact .skip (ih h)
  | case5 child rest ih => exact .skip (ih h)
  | case6 e rest s chain _ _ ih =>
    obtain ⟨htakes, hrest⟩ := Bool.and_eq_true_iff.mp h
    exact .take htakes (ih hrest)
  | case7 => cases h

theorem consumed_of_admits (h : Admits alternative chain) :
    ∀ s ∈ chain, ∃ e ∈ alternative, e.consumes s := by
  induction h with
  | nil => simp
  | literal _ ih | skip _ ih =>
    intro s hs
    obtain ⟨e, he, hconsumes⟩ := ih s hs
    exact ⟨e, List.mem_cons_of_mem _ he, hconsumes⟩
  | option taken _ ih =>
    refine List.forall_mem_cons.mpr ⟨⟨_, List.mem_cons_self, taken⟩, fun s hs => ?_⟩
    obtain ⟨e, he, hconsumes⟩ := ih s hs
    exact ⟨e, List.mem_cons_of_mem _ he, hconsumes⟩
  | take taken _ ih =>
    refine List.forall_mem_cons.mpr
      ⟨⟨_, List.mem_cons_self, Element.consumes_of_takes taken⟩, fun s hs => ?_⟩
    obtain ⟨e, he, hconsumes⟩ := ih s hs
    exact ⟨e, List.mem_cons_of_mem _ he, hconsumes⟩

/-- No suffix of the chain that an optional element can take is for a later element. -/
def Clear (chain : List SuffixAnalysis) (alternative : Alternative) : Prop :=
  alternative.Pairwise fun e later =>
    ∀ child, e = .optional child → ∀ s ∈ chain, child.takes s → ¬ later.consumes s

theorem Clear.of_subset {shorter : List SuffixAnalysis} (h : Clear chain alternative)
    (hsub : shorter ⊆ chain) : Clear shorter alternative :=
  h.imp fun hclear child he s hs => hclear child he s (hsub hs)

/-- An optional element that takes what it can leaves nothing over where no suffix is for a later
element. -/
theorem accepts_of_admits (h : Admits alternative chain) (hclear : Clear chain alternative) :
    accepts alternative chain := by
  induction h with
  | nil => rfl
  | literal _ ih =>
    rw [accepts]
    exact ih (List.pairwise_cons.mp hclear).2
  | @skip child rest chain hrest ih =>
    obtain ⟨hfirst, hlater⟩ := List.pairwise_cons.mp hclear
    cases chain with
    | nil =>
      rw [accepts]
      exact ih hlater
    | cons s chain =>
      -- A suffix that is passed over here is consumed by a later element, so this one cannot take it.
      have hskips : ¬ child.takes s := by
        intro htakes
        obtain ⟨e, he, hconsumes⟩ := consumed_of_admits hrest s List.mem_cons_self
        exact hfirst e he child rfl s List.mem_cons_self htakes hconsumes
      rw [accepts, if_neg hskips]
      exact ih hlater
  | @option child s rest chain htakes _ ih =>
    have hlater : Clear chain rest :=
      Clear.of_subset (List.pairwise_cons.mp hclear).2 (List.subset_cons_self s chain)
    rw [accepts, if_pos htakes]
    exact ih hlater
  | @take e s rest chain htakes _ ih =>
    have hlater : Clear chain rest :=
      Clear.of_subset (List.pairwise_cons.mp hclear).2 (List.subset_cons_self s chain)
    cases e with
    | literal | optional => cases htakes
    | setRef | glossed =>
      rw [accepts]
      · exact Bool.and_eq_true_iff.mpr ⟨htakes, ih hlater⟩
      all_goals nofun

end Matching

/-- The matches of a chain with the alternatives of a rule, in their order. -/
def Rule.matchesOf (rule : Rule) (chain : List SuffixAnalysis) : List RuleMatch :=
  rule.alternatives.zipIdx.filterMap fun (alternative, index) =>
    if accepts alternative chain then some (rule.matchAt index) else none

theorem Rule.mem_matchesOf {rule : Rule} {chain : List SuffixAnalysis} {m : RuleMatch} :
    m ∈ rule.matchesOf chain ↔ ∃ index alternative, rule.alternatives[index]? = some alternative ∧
      accepts alternative chain ∧ m = ⟨rule.name, rule.description, rule.id, index⟩ := by
  unfold Rule.matchesOf
  rw [List.mem_filterMap]
  constructor
  · rintro ⟨⟨alternative, index⟩, hmem, h⟩
    obtain ⟨haccepts, hm⟩ := Option.ite_none_right_eq_some.mp h
    exact ⟨index, alternative, List.mem_zipIdx_iff_getElem?.mp hmem, haccepts,
      (Option.some.inj hm).symm⟩
  · rintro ⟨index, alternative, halternative, haccepts, rfl⟩
    exact ⟨(alternative, index), List.mem_zipIdx_iff_getElem?.mpr halternative, if_pos haccepts⟩

/-- An analysis once for each of several matches, or as it is if there are none. -/
def Analysis.copies (a : Analysis) : List RuleMatch → List Analysis
  | [] => [a]
  | first :: more => (first :: more).map fun m => { a with matched := some m }

theorem Analysis.mem_copies {a copy : Analysis} {found : List RuleMatch} :
    copy ∈ a.copies found ↔
      found = [] ∧ copy = a ∨ ∃ m ∈ found, copy = { a with matched := some m } := by
  cases found with
  | nil => simp [copies]
  | cons first more => simp only [copies, List.mem_map, eq_comm, reduceCtorEq, false_and, false_or]

namespace Grammar

variable {g : Grammar}

/-- The names of sets that the rules refer to, rule by rule and alternative by alternative. -/
def references (g : Grammar) : List Text :=
  g.allRules.flatMap fun rule => rule.alternatives.flatMap fun a => a.filterMap Element.reference?

def firstUndeclared? (g : Grammar) (names : List Text) : Option Text :=
  names.find? fun name => !g.sets.contains name

/-- A value where all the names are declared, else the error of the first that is not. -/
def ifDeclared {α : Type} (g : Grammar) (names : List Text) (value : α) : Except UnknownName α :=
  match g.firstUndeclared? names with
  | some name => .error (.suffixSet name)
  | none => .ok value

/-- The matches of a chain with all rules, in their order. -/
def allMatches (g : Grammar) (chain : List SuffixAnalysis) : List RuleMatch :=
  g.allRules.flatMap (·.matchesOf chain)

theorem contains_iff_suffixSet {name : Text} :
    g.sets.contains name = true ↔ ∃ set, g.suffixSet name = .ok set := by
  rw [Table.contains_iff]
  unfold suffixSet
  cases g.sets.find? name <;> simp

theorem firstUndeclared?_eq_none_iff : g.firstUndeclared? g.references = none ↔ g.Closed := by
  simp only [firstUndeclared?, List.find?_eq_none, references, List.mem_flatMap,
    List.mem_filterMap, Bool.not_eq_true', Bool.not_eq_false, contains_iff_suffixSet]
  constructor
  · intro h rule hr alternative ha e he name hname
    exact h name ⟨rule, hr, alternative, ha, e, he, hname⟩
  · rintro h name ⟨rule, hr, alternative, ha, e, he, hname⟩
    exact h rule hr alternative ha e he name hname

section Declared

variable {α β γ : Type} (g)

/-- Of two parts in a row, the names of the first are looked up before those of the second. -/
theorem ifDeclared_append (names more : List Text) (a : α) (b : β) (f : α → β → γ) :
    (do let a ← g.ifDeclared names a; let b ← g.ifDeclared more b; return f a b) =
      g.ifDeclared (names ++ more) (f a b) := by
  unfold ifDeclared firstUndeclared?
  rw [List.find?_append]
  cases names.find? fun name => !g.sets.contains name with
  | some name => rfl
  | none => cases more.find? fun name => !g.sets.contains name <;> rfl

theorem suffixSet_bind (name : Text) (more : List Text) (b : β) :
    (do let _ ← g.suffixSet name; g.ifDeclared more b) = g.ifDeclared (name :: more) b := by
  unfold ifDeclared firstUndeclared?
  rw [List.find?_cons]
  cases hset : g.suffixSet name with
  | ok set =>
    have hdeclared : g.sets.contains name = true := contains_iff_suffixSet.mpr ⟨set, hset⟩
    rw [hdeclared]
    rfl
  | error unknown =>
    have hmissing : g.sets.contains name = false := by
      refine Bool.eq_false_iff.mpr fun hdeclared => ?_
      obtain ⟨set, hok⟩ := contains_iff_suffixSet.mp hdeclared
      cases hset.symm.trans hok
    have hunknown : unknown = .suffixSet name := by
      unfold suffixSet at hset
      split at hset
      · cases hset
      · exact (Except.error.inj hset).symm
    rw [hmissing, hunknown]
    rfl

theorem checkReferences_eq (alternative : Alternative) :
    g.checkReferences alternative =
      g.ifDeclared (alternative.filterMap Element.reference?) () := by
  induction alternative with
  | nil => rfl
  | cons e rest ih =>
    rw [checkReferences, List.filterMap_cons]
    cases e.reference? with
    | none => exact ih
    | some name =>
      dsimp only
      rw [ih, suffixSet_bind]

theorem matchesFrom_eq (rule : Rule) (chain : List SuffixAnalysis) (index : Nat)
    (alternatives : List Alternative) :
    g.matchesFrom rule chain index alternatives =
      g.ifDeclared (alternatives.flatMap fun a => a.filterMap Element.reference?)
        ((alternatives.zipIdx index).filterMap fun (alternative, index) =>
          if accepts alternative chain then some (rule.matchAt index) else none) := by
  induction alternatives generalizing index with
  | nil => rfl
  | cons alternative rest ih =>
    rw [matchesFrom, checkReferences_eq, ih, List.flatMap_cons, List.zipIdx_cons,
      List.filterMap_cons]
    by_cases haccepts : accepts alternative chain
    · simp only [haccepts, if_true]
      exact g.ifDeclared_append _ _ () _ fun _ more => rule.matchAt index :: more
    · simp only [haccepts]
      exact g.ifDeclared_append _ _ () _ fun _ more => more

theorem matchesOfRules_eq (chain : List SuffixAnalysis) (rules : List Rule) :
    g.matchesOfRules chain rules =
      g.ifDeclared (rules.flatMap fun rule => rule.alternatives.flatMap fun a =>
        a.filterMap Element.reference?) (rules.flatMap (·.matchesOf chain)) := by
  induction rules with
  | nil => rfl
  | cons rule rest ih =>
    rw [matchesOfRules, matchesFrom_eq, ih]
    exact g.ifDeclared_append _ _ _ _ List.append

end Declared

/-- All matches are found, unless a set is missing. -/
theorem matchesOf_eq (chain : List SuffixAnalysis) :
    g.matchesOf chain = g.ifDeclared g.references (g.allMatches chain) :=
  g.matchesOfRules_eq chain g.allRules

theorem matchesOf_eq_ok_iff {chain : List SuffixAnalysis} {found : List RuleMatch} :
    g.matchesOf chain = .ok found ↔ g.Closed ∧ found = g.allMatches chain := by
  rw [← firstUndeclared?_eq_none_iff, matchesOf_eq]
  unfold ifDeclared
  cases g.firstUndeclared? g.references <;> simp [eq_comm]

theorem mem_allMatches {chain : List SuffixAnalysis} {m : RuleMatch} :
    m ∈ g.allMatches chain ↔ ∃ rule ∈ g.allRules, ∃ index alternative,
      rule.alternatives[index]? = some alternative ∧ accepts alternative chain ∧
        m = ⟨rule.name, rule.description, rule.id, index⟩ := by
  simp only [allMatches, List.mem_flatMap, Rule.mem_matchesOf]

theorem annotate_eq_ok_iff {a : Analysis} {annotated : List Analysis} :
    g.annotate a = .ok annotated ↔
      g.Closed ∧ annotated = a.copies (g.allMatches a.suffixes) := by
  unfold annotate
  rw [bind_eq_ok_iff]
  constructor
  · rintro ⟨found, hfound, h⟩
    obtain ⟨hclosed, rfl⟩ := matchesOf_eq_ok_iff.mp hfound
    refine ⟨hclosed, ?_⟩
    cases hmatches : g.allMatches a.suffixes <;> rw [hmatches] at h <;>
      exact (pure_eq_ok_iff.mp h).symm
  · rintro ⟨hclosed, rfl⟩
    refine ⟨_, matchesOf_eq_ok_iff.mpr ⟨hclosed, rfl⟩, ?_⟩
    cases g.allMatches a.suffixes <;> rfl

theorem mem_annotateAll {analyses annotated : List Analysis}
    (h : g.annotateAll analyses = .ok annotated) {a : Analysis} :
    a ∈ annotated ↔ ∃ b ∈ analyses, ∃ copies, g.annotate b = .ok copies ∧ a ∈ copies := by
  induction analyses generalizing annotated with
  | nil =>
    obtain rfl := Except.ok.inj h
    simp
  | cons b rest ih =>
    obtain ⟨copies, hcopies, h⟩ := bind_eq_ok_iff.mp h
    obtain ⟨more, hmore, h⟩ := bind_eq_ok_iff.mp h
    obtain rfl := pure_eq_ok_iff.mp h
    rw [List.mem_append, ih hmore, List.exists_mem_cons_iff, hcopies]
    simp

theorem annotateAll_of_closed (hc : g.Closed) (analyses : List Analysis) :
    g.annotateAll analyses =
      .ok (analyses.flatMap fun a => a.copies (g.allMatches a.suffixes)) := by
  induction analyses with
  | nil => rfl
  | cons a rest ih =>
    have hcopies : g.annotate a = .ok _ := annotate_eq_ok_iff.mpr ⟨hc, rfl⟩
    rw [annotateAll, hcopies, ih]
    rfl

theorem byRules_total (hc : g.Closed) (analyses : List Analysis) :
    ∃ annotated, g.byRules analyses = .ok annotated :=
  ⟨_, bind_eq_ok_iff.mpr ⟨_, annotateAll_of_closed hc analyses, rfl⟩⟩

theorem mem_byRules {analyses annotated : List Analysis}
    (h : g.byRules analyses = .ok annotated) {a : Analysis} :
    a ∈ annotated ↔ ∃ b ∈ analyses, ∃ copies, g.annotate b = .ok copies ∧ a ∈ copies := by
  obtain ⟨all, hall, h⟩ := bind_eq_ok_iff.mp h
  obtain rfl := pure_eq_ok_iff.mp h
  rw [List.mem_mergeSort, mem_annotateAll hall]

/-- An analysis that a rule matches comes with that match. -/
theorem matched_mem_byRules {analyses annotated : List Analysis}
    (h : g.byRules analyses = .ok annotated) (hc : g.Closed) {a : Analysis} (ha : a ∈ analyses)
    {m : RuleMatch} (hm : m ∈ g.allMatches a.suffixes) :
    { a with matched := some m } ∈ annotated :=
  (mem_byRules h).mpr ⟨a, ha, _, annotate_eq_ok_iff.mpr ⟨hc, rfl⟩,
    Analysis.mem_copies.mpr (.inr ⟨m, hm, rfl⟩)⟩

/-- A matched analysis is a copy of one without a match. -/
theorem of_matched_mem_byRules {analyses annotated : List Analysis}
    (h : g.byRules analyses = .ok annotated) (hnone : ∀ b ∈ analyses, b.matched = none)
    {a : Analysis} (ha : a ∈ annotated) {m : RuleMatch} (hm : a.matched = some m) :
    g.Closed ∧ m ∈ g.allMatches a.suffixes ∧ { a with matched := none } ∈ analyses := by
  obtain ⟨b, hb, copies, hcopies, ha⟩ := (mem_byRules h).mp ha
  obtain ⟨hclosed, rfl⟩ := annotate_eq_ok_iff.mp hcopies
  have hb' := hnone b hb
  obtain ⟨-, rfl⟩ | ⟨m', hm', rfl⟩ := Analysis.mem_copies.mp ha
  · rw [hb'] at hm
    cases hm
  · obtain rfl := Option.some.inj hm
    refine ⟨hclosed, hm', ?_⟩
    rw [← hb']
    exact hb

end Grammar

end Morphotactics
