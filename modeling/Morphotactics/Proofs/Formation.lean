import Morphotactics.Proofs.Formation.Choosing
import Morphotactics.Proofs.Grammar.Sound

/-! Forms that rules build, as derivations from a root. -/
namespace Morphotactics.Grammar

/-- An element makes a form of a word. -/
inductive Makes (g : Grammar) : Element → Text → Text → Prop
  | literal {text option word : Text} (listed : option ∈ literalOptions text) :
      g.Makes (.literal text) word (word ++ option)
  | skip {child : Element} {word : Text} : g.Makes (.optional child) word word
  | option {child : Element} {word form : Text} (made : g.Makes child word form) :
      g.Makes (.optional child) word form
  | setRef {name word stem : Text} {set : SuffixSet} {d : SuffixDefinition}
      (declared : g.suffixSet name = .ok set) (listed : d ∈ set.suffixes.values)
      (holds : d.condition.holds word = .ok true) (applies : d.condition.apply word = .ok stem) :
      g.Makes (.setRef name) word (stem ++ d.suffix)
  | glossed {glosses : Table Text} {word : Text} : g.Makes (.glossed glosses) word word

/-- The elements of an alternative make a form of a word, one after the other. -/
inductive MakesAll (g : Grammar) : Alternative → Text → Text → Prop
  | nil {word : Text} : g.MakesAll [] word word
  | cons {e : Element} {alternative : Alternative} {word middle form : Text}
      (first : g.Makes e word middle) (rest : g.MakesAll alternative middle form) :
      g.MakesAll (e :: alternative) word form

theorem makesAll_cons_iff {g : Grammar} {e : Element} {alternative : Alternative}
    {word form : Text} :
    g.MakesAll (e :: alternative) word form ↔
      ∃ middle, g.Makes e word middle ∧ g.MakesAll alternative middle form :=
  ⟨fun h => by cases h with | cons first rest => exact ⟨_, first, rest⟩,
    fun ⟨_, first, rest⟩ => .cons first rest⟩

/-- An element makes the forms that choices at it lead to. -/
theorem makes_iff {g : Grammar} {e : Element} {word form : Text} :
    g.Makes e word form ↔ ∃ c, g.Chooses e word c form := by
  constructor
  · intro h
    induction h with
    | literal listed =>
      obtain ⟨i, hi⟩ := List.mem_iff_getElem?.mp listed
      exact ⟨_, .option hi⟩
    | skip => exact ⟨_, .skip⟩
    | option _ ih =>
      obtain ⟨c, hc⟩ := ih
      exact ⟨_, .take hc⟩
    | setRef declared listed holds applies =>
      obtain ⟨i, hi⟩ := List.mem_iff_getElem?.mp listed
      exact ⟨_, .suffix declared hi holds applies⟩
    | glossed => exact ⟨_, .pass⟩
  · rintro ⟨c, h⟩
    induction h with
    | option listed => exact .literal (List.mem_of_getElem? listed)
    | skip => exact .skip
    | take _ ih => exact .option ih
    | suffix declared listed holds applies =>
      exact .setRef declared (List.mem_of_getElem? listed) holds applies
    | pass => exact .glossed

theorem makesAll_iff {g : Grammar} {alternative : Alternative} {word form : Text} :
    g.MakesAll alternative word form ↔ ∃ cs, g.ChoosesAll alternative word cs form := by
  constructor
  · intro h
    induction h with
    | nil => exact ⟨_, .nil⟩
    | cons first _ ih =>
      obtain ⟨c, hc⟩ := makes_iff.mp first
      obtain ⟨cs, hcs⟩ := ih
      exact ⟨_, .cons hc hcs⟩
  · rintro ⟨cs, h⟩
    induction h with
    | nil => exact .nil
    | cons first _ ih => exact .cons (makes_iff.mpr ⟨_, first⟩) ih

section Membership

variable {g : Grammar} {form : Text}

theorem mem_elementFormsOfAll {e : Element} {words forms : List Text}
    (h : g.elementFormsOfAll e words = .ok forms) :
    form ∈ forms ↔ ∃ word ∈ words, g.Makes e word form := by
  have henumerates := elementFormsOfAll_enumerates (enumerates_getElem? words) h
  simp only [makes_iff, henumerates.mem_iff_exists_mem (F := g.Chooses e)]

theorem mem_alternativeForms {alternative : Alternative} {words forms : List Text}
    (h : g.alternativeForms alternative words = .ok forms) :
    form ∈ forms ↔ ∃ word ∈ words, g.MakesAll alternative word form := by
  have henumerates := alternativeForms_enumerates (enumerates_getElem? words) h
  simp only [makesAll_iff, henumerates.mem_iff_exists_mem (F := g.ChoosesAll alternative)]

theorem mem_formsOfAll {root : Text} {alternatives : List Alternative} {forms : List Text}
    (h : g.formsOfAll root alternatives = .ok forms) :
    form ∈ forms ↔ ∃ alternative ∈ alternatives, g.MakesAll alternative root form := by
  have henumerates := formsOfAll_enumerates (enumerates_getElem? alternatives) h
  simp only [makesAll_iff, henumerates.mem_iff_exists_mem (F := (g.ChoosesAll · root))]

/-- The forms of a rule are those that one of its alternatives makes of the root. -/
theorem mem_forms {name root : Text} {rules : List Rule} (hrules : g.rulesNamed name = .ok rules)
    {forms : List Text} (h : g.forms name root = .ok forms) :
    form ∈ forms ↔ ∃ rule ∈ rules, ∃ alternative ∈ rule.alternatives,
      g.MakesAll alternative root form := by
  unfold Grammar.forms at h
  rw [hrules] at h
  obtain ⟨made, hmade, h⟩ := bind_eq_ok_iff.mp h
  obtain rfl := pure_eq_ok_iff.mp h
  simp only [List.mem_eraseDups, mem_formsOfAll hmade, List.mem_flatMap]
  constructor
  · rintro ⟨alternative, ⟨rule, hr, ha⟩, hform⟩
    exact ⟨rule, hr, alternative, ha, hform⟩
  · rintro ⟨rule, hr, alternative, ha, hform⟩
    exact ⟨alternative, ⟨rule, hr, ha⟩, hform⟩

end Membership

section Totality

variable {g : Grammar}

theorem suffixForms_total {ds : List SuffixDefinition} (h : ∀ d ∈ ds, d.condition.Compiles)
    (word : Text) : ∃ forms, suffixForms word ds = .ok forms := by
  induction ds with
  | nil => exact ⟨[], rfl⟩
  | cons d rest ih =>
    obtain ⟨hd, hrest⟩ := List.forall_mem_cons.mp h
    obtain ⟨more, hmore⟩ := ih hrest
    obtain ⟨holds, hholds⟩ := Condition.holds_total hd word
    cases holds with
    | false => exact ⟨more, bind_eq_ok_iff.mpr ⟨false, hholds, hmore⟩⟩
    | true =>
      obtain ⟨stem, hstem⟩ := Condition.apply_total hd word
      exact ⟨_, bind_eq_ok_iff.mpr ⟨true, hholds, bind_eq_ok_iff.mpr ⟨stem, hstem,
        bind_eq_ok_iff.mpr ⟨more, hmore, rfl⟩⟩⟩⟩

theorem elementForms_total (hg : g.Compiles) {e : Element} (he : g.Resolves e) (word : Text) :
    ∃ forms, g.elementForms word e = .ok forms := by
  induction e with
  | literal | glossed => exact ⟨_, rfl⟩
  | optional child ih =>
    obtain ⟨made, hmade⟩ := ih he
    exact ⟨_, bind_eq_ok_iff.mpr ⟨made, hmade, rfl⟩⟩
  | setRef name =>
    obtain ⟨set, hset⟩ := he name rfl
    obtain ⟨made, hmade⟩ := suffixForms_total
      (fun d hd => hg _ (mem_suffixes_of_suffixSet hset hd)) word
    refine ⟨made, ?_⟩
    unfold elementForms
    rw [hset]
    dsimp only
    rw [hmade]

theorem elementFormsOfAll_total (hg : g.Compiles) {e : Element} (he : g.Resolves e)
    (words : List Text) : ∃ forms, g.elementFormsOfAll e words = .ok forms := by
  induction words with
  | nil => exact ⟨[], rfl⟩
  | cons word rest ih =>
    obtain ⟨made, hmade⟩ := elementForms_total hg he word
    obtain ⟨more, hmore⟩ := ih
    exact ⟨_, bind_eq_ok_iff.mpr ⟨made, hmade, bind_eq_ok_iff.mpr ⟨more, hmore, rfl⟩⟩⟩

theorem alternativeForms_total (hg : g.Compiles) {alternative : Alternative}
    (ha : ∀ e ∈ alternative, g.Resolves e) (words : List Text) :
    ∃ forms, g.alternativeForms alternative words = .ok forms := by
  induction alternative generalizing words with
  | nil => exact ⟨words, rfl⟩
  | cons e rest ih =>
    obtain ⟨he, hrest⟩ := List.forall_mem_cons.mp ha
    obtain ⟨made, hmade⟩ := elementFormsOfAll_total hg he words
    obtain ⟨forms, hforms⟩ := ih hrest made
    exact ⟨forms, bind_eq_ok_iff.mpr ⟨made, hmade, hforms⟩⟩

theorem formsOfAll_total (hg : g.Compiles) {alternatives : List Alternative}
    (ha : ∀ alternative ∈ alternatives, ∀ e ∈ alternative, g.Resolves e) (root : Text) :
    ∃ forms, g.formsOfAll root alternatives = .ok forms := by
  induction alternatives with
  | nil => exact ⟨[], rfl⟩
  | cons alternative rest ih =>
    obtain ⟨hfirst, hrest⟩ := List.forall_mem_cons.mp ha
    obtain ⟨made, hmade⟩ := alternativeForms_total hg hfirst [root]
    obtain ⟨more, hmore⟩ := ih hrest
    exact ⟨_, bind_eq_ok_iff.mpr ⟨made, hmade, bind_eq_ok_iff.mpr ⟨more, hmore, rfl⟩⟩⟩

/-- A rule has forms of every root if all patterns are sound and all its sets are declared. -/
theorem forms_total (hg : g.Compiles) {name : Text} {rules : List Rule}
    (hrules : g.rulesNamed name = .ok rules)
    (ha : ∀ rule ∈ rules, ∀ alternative ∈ rule.alternatives, ∀ e ∈ alternative, g.Resolves e)
    (root : Text) : ∃ forms, g.forms name root = .ok forms := by
  have hall : ∀ alternative ∈ rules.flatMap (·.alternatives), ∀ e ∈ alternative,
      g.Resolves e := by
    intro alternative hmem
    obtain ⟨rule, hr, halternative⟩ := List.mem_flatMap.mp hmem
    exact ha rule hr alternative halternative
  obtain ⟨made, hmade⟩ := formsOfAll_total hg hall root
  refine ⟨made.eraseDups, ?_⟩
  unfold forms
  rw [hrules]
  exact bind_eq_ok_iff.mpr ⟨made, hmade, rfl⟩

end Totality

end Morphotactics.Grammar
