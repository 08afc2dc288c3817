import Mathlib
import Morphotactics.Proofs.Formation
import Morphotactics.Proofs.Grammar.Evaluation

/-! Rules that refer to sets which are not declared: such a set is missed only where a word has been
built in front of it. -/
namespace Morphotactics.Grammar

variable {g : Grammar}

/-- An element refers to a set that is not declared. -/
def Lacks (g : Grammar) (e : Element) (name : Text) : Prop :=
  e.reference? = some name ∧ g.suffixSet name = .error (.suffixSet name)

/-- The elements in front of the first one that refers to an undeclared set build a word from the
root. -/
def Misses (g : Grammar) (alternative : Alternative) (root name : Text) : Prop :=
  ∃ before e after, alternative = before ++ e :: after ∧ (∀ b ∈ before, g.Resolves b) ∧
    g.Lacks e name ∧ ∃ word, g.MakesAll before root word

theorem resolves_or_lacks (g : Grammar) (e : Element) : g.Resolves e ∨ ∃ name, g.Lacks e name := by
  cases hrefers : e.reference? with
  | none => exact .inl (by simp [Resolves, hrefers])
  | some name =>
    cases hset : g.sets.find? name with
    | none => exact .inr ⟨name, hrefers, by rw [suffixSet, hset]⟩
    | some set =>
      refine .inl fun other hother => ⟨set, ?_⟩
      obtain rfl := Option.some.inj (hrefers.symm.trans hother)
      rw [suffixSet, hset]

theorem Lacks.not_resolves {e : Element} {name : Text} (h : g.Lacks e name) : ¬ g.Resolves e := by
  intro hresolves
  obtain ⟨set, hset⟩ := hresolves name h.1
  cases h.2.symm.trans hset

theorem Lacks.unique {e : Element} {name other : Text} (h : g.Lacks e name)
    (hother : g.Lacks e other) : name = other :=
  Option.some.inj (h.1.symm.trans hother.1)

section Alternative

variable {e : Element} {rest : Alternative} {root name : Text}

theorem not_misses_nil : ¬ g.Misses [] root name := by
  rintro ⟨before, e, after, hsplit, -⟩
  simp at hsplit

theorem misses_cons_iff_of_resolves (he : g.Resolves e) :
    g.Misses (e :: rest) root name ↔
      ∃ middle, g.Makes e root middle ∧ g.Misses rest middle name := by
  constructor
  · rintro ⟨before, last, after, hsplit, hbefore, hlacks, word, hword⟩
    cases before with
    | nil =>
      obtain ⟨rfl, -⟩ := List.cons.inj hsplit
      exact absurd he hlacks.not_resolves
    | cons first before =>
      obtain ⟨rfl, hrest⟩ := List.cons.inj hsplit
      obtain ⟨middle, hfirst, hword⟩ := makesAll_cons_iff.mp hword
      exact ⟨middle, hfirst, before, last, after, hrest, (List.forall_mem_cons.mp hbefore).2,
        hlacks, word, hword⟩
  · rintro ⟨middle, hfirst, before, last, after, rfl, hbefore, hlacks, word, hword⟩
    exact ⟨e :: before, last, after, rfl, List.forall_mem_cons.mpr ⟨he, hbefore⟩, hlacks, word,
      .cons hfirst hword⟩

theorem misses_cons_iff_of_lacks {missing : Text} (he : g.Lacks e missing) :
    g.Misses (e :: rest) root name ↔ name = missing := by
  constructor
  · rintro ⟨before, last, after, hsplit, hbefore, hlacks, -⟩
    cases before with
    | nil =>
      obtain ⟨rfl, -⟩ := List.cons.inj hsplit
      exact hlacks.unique he
    | cons first before =>
      obtain ⟨rfl, -⟩ := List.cons.inj hsplit
      exact absurd (hbefore e List.mem_cons_self) he.not_resolves
  · rintro rfl
    exact ⟨[], e, rest, rfl, List.forall_mem_nil _, he, root, .nil⟩

theorem elementForms_of_lacks (he : g.Lacks e name) (word : Text) :
    g.elementForms word e = .error (.unknown (.suffixSet name)) := by
  obtain ⟨hrefers, hset⟩ := he
  induction e with
  | literal | glossed => cases hrefers
  | optional child ih => rw [elementForms, ih hrefers]; rfl
  | setRef other =>
    obtain rfl := Option.some.inj hrefers
    rw [elementForms, hset]

theorem alternativeForms_nil (g : Grammar) (alternative : Alternative) :
    g.alternativeForms alternative [] = .ok [] := by
  induction alternative with
  | nil => rfl
  | cons e rest ih => exact ih

/-- An alternative makes an error of words if it misses a set from one of them, and only then. -/
theorem alternativeForms_error_iff (hg : g.Compiles) {alternative : Alternative}
    {words : List Text} {error : FormationError} :
    g.alternativeForms alternative words = .error error ↔
      ∃ name, error = .unknown (.suffixSet name) ∧
        ∃ word ∈ words, g.Misses alternative word name := by
  induction alternative generalizing words with
  | nil => simp [alternativeForms, not_misses_nil]
  | cons e rest ih =>
    rcases g.resolves_or_lacks e with he | ⟨missing, he⟩
    · obtain ⟨made, hmade⟩ := elementFormsOfAll_total hg he words
      have hstep : g.alternativeForms (e :: rest) words = g.alternativeForms rest made := by
        rw [alternativeForms, hmade]
        rfl
      rw [hstep, ih]
      simp only [mem_elementFormsOfAll hmade, misses_cons_iff_of_resolves he]
      constructor
      · rintro ⟨name, rfl, middle, ⟨word, hword, hfirst⟩, hrest⟩
        exact ⟨name, rfl, word, hword, middle, hfirst, hrest⟩
      · rintro ⟨name, rfl, word, hword, middle, hfirst, hrest⟩
        exact ⟨name, rfl, middle, ⟨word, hword, hfirst⟩, hrest⟩
    · simp only [misses_cons_iff_of_lacks he]
      cases words with
      | nil =>
        -- Nothing has been built that the missing set could be tried with.
        simp [alternativeForms_nil]
      | cons word more =>
        have hstep : g.alternativeForms (e :: rest) (word :: more) =
            .error (.unknown (.suffixSet missing)) := by
          rw [alternativeForms, elementFormsOfAll, elementForms_of_lacks he word]
          rfl
        rw [hstep]
        constructor
        · intro h
          exact ⟨missing, (Except.error.inj h).symm, word, List.mem_cons_self, rfl⟩
        · rintro ⟨_, rfl, -, -, rfl⟩
          rfl

end Alternative

theorem alternativeForms_ok_iff (hg : g.Compiles) {alternative : Alternative} {root : Text} :
    (∃ forms, g.alternativeForms alternative [root] = .ok forms) ↔
      ∀ name, ¬ g.Misses alternative root name := by
  rw [exists_eq_ok_iff]
  simp only [ne_eq, alternativeForms_error_iff hg, List.mem_singleton, exists_eq_left]
  constructor
  · intro h name hmisses
    exact h _ ⟨name, rfl, hmisses⟩
  · rintro h error ⟨name, -, hmisses⟩
    exact h name hmisses

/-- The first alternative with an error decides for all of them. -/
theorem formsOfAll_error_iff {root : Text} {alternatives : List Alternative}
    {error : FormationError} :
    g.formsOfAll root alternatives = .error error ↔
      ∃ before alternative after, alternatives = before ++ alternative :: after ∧
        (∀ b ∈ before, ∃ forms, g.alternativeForms b [root] = .ok forms) ∧
          g.alternativeForms alternative [root] = .error error := by
  induction alternatives with
  | nil => simp [formsOfAll]
  | cons first rest ih =>
    simp only [List.cons_eq_append_iff]
    cases hfirst : g.alternativeForms first [root] with
    | error failure =>
      have hstep : g.formsOfAll root (first :: rest) = .error failure := by
        rw [formsOfAll, hfirst]
        rfl
      rw [hstep]
      constructor
      · intro h
        exact ⟨[], first, rest, .inl ⟨rfl, rfl⟩, List.forall_mem_nil _, hfirst.trans h⟩
      · rintro ⟨before, alternative, after, ⟨rfl, hsplit⟩ | ⟨more, rfl, -⟩, hbefore, herror⟩
        · obtain ⟨rfl, -⟩ := List.cons.inj hsplit
          exact hfirst.symm.trans herror
        · obtain ⟨forms, hforms⟩ := hbefore first List.mem_cons_self
          cases hfirst.symm.trans hforms
    | ok made =>
      have hstep : g.formsOfAll root (first :: rest) = .error error ↔
          g.formsOfAll root rest = .error error := by
        rw [formsOfAll, hfirst]
        cases g.formsOfAll root rest <;> simp [bind, Except.bind, pure, Except.pure]
      rw [hstep, ih]
      constructor
      · rintro ⟨before, alternative, after, hsplit, hbefore, herror⟩
        exact ⟨first :: before, alternative, after, .inr ⟨before, rfl, hsplit⟩,
          List.forall_mem_cons.mpr ⟨⟨made, hfirst⟩, hbefore⟩, herror⟩
      · rintro ⟨before, alternative, after, ⟨rfl, hsplit⟩ | ⟨more, rfl, hsplit⟩, hbefore, herror⟩
        · obtain ⟨rfl, -⟩ := List.cons.inj hsplit
          cases hfirst.symm.trans herror
        · exact ⟨more, alternative, after, hsplit, (List.forall_mem_cons.mp hbefore).2, herror⟩

theorem formsOfAll_ok_iff {root : Text} {alternatives : List Alternative} :
    (∃ forms, g.formsOfAll root alternatives = .ok forms) ↔
      ∀ alternative ∈ alternatives, ∃ forms, g.alternativeForms alternative [root] = .ok forms := by
  induction alternatives with
  | nil => exact ⟨fun _ => List.forall_mem_nil _, fun _ => ⟨[], rfl⟩⟩
  | cons first rest ih =>
    rw [List.forall_mem_cons, ← ih]
    constructor
    · rintro ⟨forms, h⟩
      obtain ⟨made, hmade, h⟩ := bind_eq_ok_iff.mp h
      obtain ⟨more, hmore, -⟩ := bind_eq_ok_iff.mp h
      exact ⟨⟨made, hmade⟩, more, hmore⟩
    · rintro ⟨⟨made, hmade⟩, more, hmore⟩
      exact ⟨_, bind_eq_ok_iff.mpr ⟨made, hmade, bind_eq_ok_iff.mpr ⟨more, hmore, rfl⟩⟩⟩

section Rule

variable {rule root : Text} {rules : List Rule}

theorem forms_of_rulesNamed (hrules : g.rulesNamed rule = .ok rules) (root : Text) :
    g.forms rule root =
      (g.formsOfAll root (rules.flatMap (·.alternatives))).map List.eraseDups := by
  unfold forms
  rw [hrules]
  dsimp only
  cases g.formsOfAll root (rules.flatMap (·.alternatives)) <;> rfl

theorem forms_ok_iff (hg : g.Compiles) (hrules : g.rulesNamed rule = .ok rules) :
    (∃ forms, g.forms rule root = .ok forms) ↔
      ∀ r ∈ rules, ∀ alternative ∈ r.alternatives, ∀ name, ¬ g.Misses alternative root name := by
  have hall : (∃ forms, g.forms rule root = .ok forms) ↔
      ∃ forms, g.formsOfAll root (rules.flatMap (·.alternatives)) = .ok forms := by
    rw [forms_of_rulesNamed hrules]
    cases g.formsOfAll root (rules.flatMap (·.alternatives)) <;> simp [Except.map]
  rw [hall, formsOfAll_ok_iff]
  simp only [alternativeForms_ok_iff hg, List.mem_flatMap]
  constructor
  · intro h r hr alternative halternative
    exact h alternative ⟨r, hr, halternative⟩
  · rintro h alternative ⟨r, hr, halternative⟩
    exact h r hr alternative halternative

theorem forms_error_iff (hg : g.Compiles) (hrules : g.rulesNamed rule = .ok rules)
    {error : FormationError} :
    g.forms rule root = .error error ↔
      ∃ name, error = .unknown (.suffixSet name) ∧ ∃ before alternative after,
        rules.flatMap (·.alternatives) = before ++ alternative :: after ∧
          (∀ b ∈ before, ∀ other, ¬ g.Misses b root other) ∧ g.Misses alternative root name := by
  have hall : g.forms rule root = .error error ↔
      g.formsOfAll root (rules.flatMap (·.alternatives)) = .error error := by
    rw [forms_of_rulesNamed hrules]
    cases g.formsOfAll root (rules.flatMap (·.alternatives)) <;> simp [Except.map]
  rw [hall, formsOfAll_error_iff]
  simp only [alternativeForms_ok_iff hg, alternativeForms_error_iff hg, List.mem_singleton,
    exists_eq_left]
  constructor
  · rintro ⟨before, alternative, after, hsplit, hbefore, name, rfl, hmisses⟩
    exact ⟨name, rfl, before, alternative, after, hsplit, hbefore, hmisses⟩
  · rintro ⟨name, rfl, before, alternative, after, hsplit, hbefore, hmisses⟩
    exact ⟨before, alternative, after, hsplit, hbefore, name, rfl, hmisses⟩

end Rule

/-- With sound patterns, a rule has forms of a root unless one of its alternatives misses a set from
there. The one error is then that the set is unknown which the first such alternative misses. -/
theorem forms_missing_iff (hg : g.Compiles) {rule : Text} {rules : List Rule}
    (hrules : g.rulesNamed rule = .ok rules) (root : Text) :
    ((∃ forms, g.forms rule root = .ok forms) ↔
        ∀ r ∈ rules, ∀ alternative ∈ r.alternatives, ∀ name,
          ¬ g.Misses alternative root name) ∧
      ∀ error, g.forms rule root = .error error ↔
        ∃ name, error = .unknown (.suffixSet name) ∧ ∃ before alternative after,
          rules.flatMap (·.alternatives) = before ++ alternative :: after ∧
            (∀ b ∈ before, ∀ other, ¬ g.Misses b root other) ∧ g.Misses alternative root name :=
  ⟨forms_ok_iff hg hrules, fun _ => forms_error_iff hg hrules⟩

namespace Dangling

/-- A suffix of stems that end in a vowel. -/
def vocalic : SuffixDefinition where
  suffix := ['a']
  description := ['x']
  condition := { kind := .isVowel }

def alternative : Alternative :=
  [.setRef ['s'], .setRef ['t']]

/-- A rule that refers to a declared set and then to one that is not. -/
def rule : Rule where
  name := ['r']
  description := []
  alternatives := [alternative]
  serial := 1

def grammar : Grammar :=
  .ofDeclarations 1 [.set ['s'] [] [vocalic], .rule ['r'] [] [alternative]]

theorem grammar_declared : grammar.Declared := by
  have hread : declarationsOf? 2
      ("SUFFIX s \x7b a: \"x\" WHEN ISVOWEL \x7d ".toList ++ "RULE r \x7b @s @t \x7d".toList) =
        some [.set ['s'] [] [vocalic], .rule ['r'] [] [alternative]] := by
    cbv
  exact Grammar.declared_of_declarationsOf? hread

theorem grammar_compiles : grammar.Compiles := by
  have hsuffixes : grammar.suffixes.map Prod.snd = [vocalic] := rfl
  intro owned howned
  have hmem : owned.2 ∈ grammar.suffixes.map Prod.snd := List.mem_map_of_mem howned
  rw [hsuffixes, List.mem_singleton] at hmem
  rw [hmem]
  exact nofun

theorem grammar_rules : grammar.rulesNamed ['r'] = .ok [rule] :=
  rfl

theorem grammar_lacks : grammar.Lacks (.setRef ['t']) ['t'] :=
  ⟨rfl, rfl⟩

end Dangling

/-- From a root that ends in a vowel the rule comes to the set that is not declared. -/
theorem dangling_noticed :
    Dangling.grammar.Compiles ∧ Dangling.grammar.rulesNamed ['r'] = .ok [Dangling.rule] ∧
      Dangling.grammar.forms ['r'] "ka".toList = .error (.unknown (.suffixSet ['t'])) := by
  have hresolves : Dangling.grammar.Resolves (.setRef ['s']) := by
    intro name h
    obtain rfl := Option.some.inj h
    exact ⟨_, rfl⟩
  have hword : Dangling.grammar.MakesAll [.setRef ['s']] "ka".toList "kaa".toList :=
    .cons (.setRef rfl List.mem_cons_self (by cbv) rfl) .nil
  have hmisses : Dangling.grammar.Misses Dangling.alternative "ka".toList ['t'] :=
    ⟨[.setRef ['s']], .setRef ['t'], [], rfl, List.forall_mem_singleton.mpr hresolves,
      Dangling.grammar_lacks, _, hword⟩
  have herror := (forms_missing_iff Dangling.grammar_compiles Dangling.grammar_rules
    "ka".toList).2 (.unknown (.suffixSet ['t']))
  exact ⟨Dangling.grammar_compiles, Dangling.grammar_rules, herror.mpr
    ⟨['t'], rfl, [], Dangling.alternative, [], rfl, List.forall_mem_nil _, hmisses⟩⟩

/-- From a root that ends in a consonant the rule has no forms, and no error either. -/
theorem dangling_unnoticed :
    Dangling.grammar.Declared ∧ Dangling.grammar.Compiles ∧
      Dangling.grammar.rulesNamed ['r'] = .ok [Dangling.rule] ∧
        Dangling.alternative ∈ Dangling.rule.alternatives ∧
          .setRef ['t'] ∈ Dangling.alternative ∧
            Dangling.grammar.suffixSet ['t'] = .error (.suffixSet ['t']) ∧
              Dangling.grammar.forms ['r'] "kt".toList = .ok [] := by
  have hlisted : Element.setRef ['t'] ∈ Dangling.alternative := by decide
  have hforms : Dangling.grammar.forms ['r'] "kt".toList = .ok [] := by cbv
  exact ⟨Dangling.grammar_declared, Dangling.grammar_compiles, Dangling.grammar_rules,
    List.mem_cons_self, hlisted, Dangling.grammar_lacks.2, hforms⟩

end Morphotactics.Grammar
