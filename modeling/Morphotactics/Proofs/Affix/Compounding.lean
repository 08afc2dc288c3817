import Mathlib
import Morphotactics.Proofs.Affix.Exhaustion
import Morphotactics.Proofs.Annotation
import Morphotactics.Proofs.Grammar.Evaluation

/-! Compound patterns beside the alternatives that they are written for: the chains that an
alternative matches are spelled by words of flags that its pattern allows. -/
namespace Morphotactics

/-- A pattern as it is read in an affix file: a question mark makes the flag before it optional. -/
def PatternFlag.readAll : Text → List PatternFlag
  | [] => []
  | flag :: '?' :: rest => ⟨flag, true⟩ :: readAll rest
  | flag :: rest => ⟨flag, false⟩ :: readAll rest

/-- A pattern allows the words with its flags in their order, of which the optional ones may be left
out. -/
inductive Compounds : List PatternFlag → Text → Prop
  | nil : Compounds [] []
  | present {f : PatternFlag} {pattern : List PatternFlag} {word : Text}
      (rest : Compounds pattern word) : Compounds (f :: pattern) (f.flag :: word)
  | absent {f : PatternFlag} {pattern : List PatternFlag} {word : Text} (optional : f.optional)
      (rest : Compounds pattern word) : Compounds (f :: pattern) word

/-- The sets of all suffixes of a chain have flags, and these make up a word. -/
def FlagTable.Spells (flags : FlagTable) : List SuffixAnalysis → Text → Prop :=
  List.Forall₂ fun s flag => flags.find? s.category = some flag

/-- An element that takes no suffix by its text. -/
def Element.IsUnglossed : Element → Prop
  | .glossed _ | .optional (.glossed _) => False
  | .literal _ | .setRef _ | .optional _ => True

/-- No later element adds the flag of an option again. -/
def Alternative.OptionsApart (alternative : Alternative) : Prop :=
  alternative.Pairwise fun e later =>
    ∀ name, e = .optional (.setRef name) → later.flagName? ≠ some name

section Reading

variable {flag : Char} {rest : Text}

theorem PatternFlag.readAll_optional (flag : Char) (rest : Text) :
    readAll (flag :: '?' :: rest) = ⟨flag, true⟩ :: readAll rest := by
  rw [readAll]

theorem PatternFlag.readAll_required (h : rest.head? ≠ some '?') :
    readAll (flag :: rest) = ⟨flag, false⟩ :: readAll rest := by
  rw [readAll]
  rintro more rfl
  exact h rfl

/-- What is written of flags is read as these flags, none of which is a question mark. -/
theorem PatternFlag.readAll_render {pattern : List PatternFlag} (h : ∀ f ∈ pattern, f.flag ≠ '?') :
    readAll (pattern.flatMap render) = pattern := by
  induction pattern with
  | nil => rfl
  | cons f pattern ih =>
    obtain ⟨-, hpattern⟩ := List.forall_mem_cons.mp h
    obtain ⟨flag, optional⟩ := f
    rw [List.flatMap_cons]
    cases optional with
    | true => exact (readAll_optional _ _).trans (congrArg _ (ih hpattern))
    | false =>
      refine (readAll_required fun hmark => ?_).trans (congrArg _ (ih hpattern))
      -- The rest of the pattern begins with a flag, if there is more of it.
      cases pattern with
      | nil => cases hmark
      | cons next more =>
        obtain ⟨hnext, -⟩ := List.forall_mem_cons.mp hpattern
        obtain ⟨flag', optional'⟩ := next
        refine hnext (Option.some.inj (Eq.trans ?_ hmark))
        cases optional' <;> rfl

end Reading

section Chains

variable {flags : FlagTable} {flagOf : Text → Char} {alternative : Alternative}
  {chain : List SuffixAnalysis} {word : Text}

theorem Element.setRef_of_takes {e : Element} {s : SuffixAnalysis} (h : e.takes s)
    (hplain : e.IsUnglossed) : e = .setRef s.category := by
  cases e with
  | literal | optional => cases h
  | glossed => exact hplain.elim
  | setRef name => exact congrArg _ (of_decide_eq_true h).symm

theorem Element.optional_setRef_of_takes {child : Element} {s : SuffixAnalysis}
    (h : child.takes s) (hplain : (Element.optional child).IsUnglossed) :
    child = .setRef s.category := by
  cases child with
  | literal | optional => cases h
  | glossed => exact hplain.elim
  | setRef => exact setRef_of_takes h trivial

/-- An element that can take a suffix adds the flag of the set that owns it. -/
theorem Element.flagName?_of_consumes {e : Element} {s : SuffixAnalysis} (h : e.consumes s)
    (hplain : e.IsUnglossed) : e.flagName? = some s.category := by
  cases e with
  | literal => cases h
  | glossed => exact hplain.elim
  | setRef => rw [setRef_of_takes (e := .setRef _) h hplain, flagName?]
  | optional child => rw [optional_setRef_of_takes h hplain, flagName?]

/-- The flags of a chain that an alternative admits are a word of its pattern. -/
theorem compounds_of_admits (h : Admits alternative chain)
    (hplain : ∀ e ∈ alternative, e.IsUnglossed) :
    Compounds (alternative.filterMap (Element.patternFlag? flagOf))
      (chain.map fun s => flagOf s.category) := by
  induction h with
  | nil => exact .nil
  | literal _ ih => exact ih (List.forall_mem_cons.mp hplain).2
  | @skip child _ _ _ ih =>
    have hrest := ih (List.forall_mem_cons.mp hplain).2
    cases child with
    | setRef name => exact .absent rfl hrest
    | literal | glossed | optional => exact hrest
  | option taken _ ih =>
    obtain ⟨he, hrest⟩ := List.forall_mem_cons.mp hplain
    rw [Element.optional_setRef_of_takes taken he]
    exact .present (f := ⟨_, true⟩) (ih hrest)
  | take taken _ ih =>
    obtain ⟨he, hrest⟩ := List.forall_mem_cons.mp hplain
    rw [Element.setRef_of_takes taken he]
    exact .present (f := ⟨_, false⟩) (ih hrest)

theorem compounds_cons_iff {f : PatternFlag} {pattern : List PatternFlag} :
    Compounds (f :: pattern) word ↔
      (∃ rest, word = f.flag :: rest ∧ Compounds pattern rest) ∨
        (f.optional ∧ Compounds pattern word) := by
  constructor
  · intro h
    cases h with
    | present rest => exact .inl ⟨_, rfl, rest⟩
    | absent optional rest => exact .inr ⟨optional, rest⟩
  · rintro (⟨rest, rfl, h⟩ | ⟨optional, h⟩)
    · exact .present h
    · exact .absent optional h

/-- A chain is admitted if its flags are a word of the pattern and no two sets share a flag. -/
theorem admits_of_compounds {named : Set Text} (hdistinct : named.InjOn flagOf)
    (hplain : ∀ e ∈ alternative, e.IsUnglossed)
    (hnames : ∀ e ∈ alternative, ∀ name ∈ e.flagName?, name ∈ named)
    (hchain : ∀ s ∈ chain, s.category ∈ named)
    (h : Compounds (alternative.filterMap (Element.patternFlag? flagOf))
      (chain.map fun s => flagOf s.category)) :
    Admits alternative chain := by
  induction alternative generalizing chain with
  | nil =>
    generalize hword : chain.map (fun s => flagOf s.category) = word at h
    cases h
    obtain rfl := List.map_eq_nil_iff.mp hword
    exact .nil
  | cons e rest ih =>
    obtain ⟨he, hothers⟩ := List.forall_mem_cons.mp hplain
    obtain ⟨hname, hlater⟩ := List.forall_mem_cons.mp hnames
    -- A flag that the element adds is that of the first suffix, if the word begins with it.
    have hfirst : ∀ {name more}, e.flagName? = some name →
        chain.map (fun s => flagOf s.category) = flagOf name :: more →
          Compounds (rest.filterMap (Element.patternFlag? flagOf)) more →
            ∃ s left, chain = s :: left ∧ s.category = name ∧ Admits rest left := by
      intro name more hadds hword hmore
      obtain ⟨s, left, rfl, hflag, rfl⟩ := List.map_eq_cons_iff.mp hword
      obtain ⟨hs, hleft⟩ := List.forall_mem_cons.mp hchain
      exact ⟨s, left, rfl, hdistinct hs (hname name hadds) hflag, ih hothers hlater hleft hmore⟩
    cases e with
    | literal => exact .literal (ih hothers hlater hchain h)
    | glossed => exact he.elim
    | setRef name =>
      obtain ⟨more, hword, hmore⟩ | ⟨hoptional, -⟩ := compounds_cons_iff.mp h
      · obtain ⟨s, left, rfl, hcategory, hadmits⟩ := hfirst rfl hword hmore
        exact .take (decide_eq_true hcategory) hadmits
      · cases hoptional
    | optional child =>
      cases child with
      | literal | glossed | optional => exact .skip (ih hothers hlater hchain h)
      | setRef name =>
        obtain ⟨more, hword, hmore⟩ | ⟨-, hrest⟩ := compounds_cons_iff.mp h
        · obtain ⟨s, left, rfl, hcategory, hadmits⟩ := hfirst rfl hword hmore
          exact .option (decide_eq_true hcategory) hadmits
        · exact .skip (ih hothers hlater hchain hrest)

theorem clear_of_optionsApart (hplain : ∀ e ∈ alternative, e.IsUnglossed)
    (hapart : alternative.OptionsApart) : Clear chain alternative := by
  refine hapart.imp_of_mem fun {e later} he hlater hone => ?_
  rintro child rfl s - htakes hconsumes
  rw [Element.optional_setRef_of_takes htakes (hplain _ he)] at hone
  exact hone _ rfl (Element.flagName?_of_consumes hconsumes (hplain _ hlater))

end Chains

section Flags

variable {flags : FlagTable} {flagOf : Text → Char} {alternative : Alternative}
  {chain : List SuffixAnalysis} {word : Text}
  (hfind : ∀ name ∈ flags.keys, flags.find? name = some (flagOf name))

include hfind

theorem FlagTable.spells_iff : flags.Spells chain word ↔
    (∀ s ∈ chain, s.category ∈ flags.keys) ∧ word = chain.map fun s => flagOf s.category := by
  induction chain generalizing word with
  | nil => simp [Spells]
  | cons s rest ih =>
    rw [List.forall_mem_cons, Spells, List.forall₂_cons_left_iff]
    constructor
    · rintro ⟨flag, word, hflag, hrest, rfl⟩
      have hs : s.category ∈ flags.keys := Table.mem_keys_iff.mpr ⟨flag, hflag⟩
      obtain ⟨hkeys, rfl⟩ := ih.mp hrest
      obtain rfl := Option.some.inj ((hfind _ hs).symm.trans hflag)
      exact ⟨⟨hs, hkeys⟩, rfl⟩
    · rintro ⟨⟨hs, hkeys⟩, rfl⟩
      exact ⟨_, _, hfind _ hs, ih.mpr ⟨hkeys, rfl⟩, rfl⟩

/-- No two names have the same flag. -/
theorem FlagTable.injOn_of_distinct (hdistinct : ∀ first second flag,
    flags.find? first = some flag → flags.find? second = some flag → first = second) :
    Set.InjOn flagOf {name | name ∈ flags.keys} := by
  intro first hfirst second hsecond hsame
  exact hdistinct first second _ (hfind _ hfirst) (hsame ▸ hfind _ hsecond)

theorem exists_spells_of_accepts (hplain : ∀ e ∈ alternative, e.IsUnglossed)
    (hnames : ∀ e ∈ alternative, ∀ name ∈ e.flagName?, name ∈ flags.keys)
    (h : accepts alternative chain) : ∃ word, flags.Spells chain word ∧
      Compounds (alternative.filterMap (Element.patternFlag? flagOf)) word := by
  have hadmits := admits_of_accepts h
  refine ⟨_, (FlagTable.spells_iff hfind).mpr ⟨fun s hs => ?_, rfl⟩,
    compounds_of_admits hadmits hplain⟩
  obtain ⟨e, he, hconsumes⟩ := consumed_of_admits hadmits s hs
  exact hnames e he _ (Element.flagName?_of_consumes hconsumes (hplain e he))

theorem accepts_of_spells (hdistinct : Set.InjOn flagOf {name | name ∈ flags.keys})
    (hplain : ∀ e ∈ alternative, e.IsUnglossed)
    (hnames : ∀ e ∈ alternative, ∀ name ∈ e.flagName?, name ∈ flags.keys)
    (hapart : alternative.OptionsApart) (hspells : flags.Spells chain word)
    (h : Compounds (alternative.filterMap (Element.patternFlag? flagOf)) word) :
    accepts alternative chain := by
  obtain ⟨hchain, rfl⟩ := (FlagTable.spells_iff hfind).mp hspells
  have hadmits := admits_of_compounds hdistinct hplain hnames hchain h
  exact accepts_of_admits hadmits (clear_of_optionsApart hplain hapart)

end Flags

/-- An action that only uses names with flags gives out none. -/
theorem Flagging.Uses.runFrom_of_known {α : Type} {action : Flagging α} {names used : List Text}
    {value : (Text → Char) → α} (h : action.Uses names value)
    (hnames : ∀ name ∈ names, name ∈ (FlagTable.ofNames used).keys) {flagOf : Text → Char}
    (hagrees : (FlagTable.ofNames used).Agrees flagOf) :
    action.runFrom (.ofNames used) = (.ok (value flagOf), .ofNames used) := by
  have hused : names ⊆ used := fun name hname => by
    have hkey := hnames name hname
    rw [FlagTable.keys_ofNames] at hkey
    exact List.mem_eraseDups.mp (List.mem_of_mem_take hkey)
  have hsame := FlagTable.ofNames_append_of_subset hused
  have hrun := h used flagOf (hsame ▸ hagrees)
  rwa [hsame, FlagTable.lacking?_eq_none_iff.mpr hnames] at hrun

/-- After any calls, the pattern of an alternative whose sets have flags is written with these, and
is read as it was meant. The chains that the alternative matches are spelled by words that the
pattern allows, and such words spell only these chains unless an option is in the way. -/
theorem alternativePatterns_agree (g : Grammar) (language : Text) (folder : Folder)
    (calls : List ExportCall) {e : Exporter}
    (he : ((Exporter.mk g language .empty).answerAll folder calls).1 = e)
    {alternative : Alternative} (hplain : ∀ element ∈ alternative, element.IsUnglossed)
    (hflags : ∀ element ∈ alternative, ∀ name ∈ element.flagName?, name ∈ e.flags.keys) :
    ∃ pattern, (alternativePatterns [alternative]).runFrom e.flags =
        (.ok ([pattern].filter (!·.isEmpty)), e.flags) ∧
      PatternFlag.readAll (pattern.flatMap PatternFlag.render) = pattern ∧
      (∀ chain, accepts alternative chain →
        ∃ word, e.flags.Spells chain word ∧ Compounds pattern word) ∧
      (alternative.OptionsApart → ∀ chain word, e.flags.Spells chain word →
        Compounds pattern word → accepts alternative chain) := by
  have hused : e.flags = .ofNames (calls.flatMap (·.names g)) := by
    rw [← he, Exporter.answerAll_exporter FlagTable.ofNames_nil]
    rfl
  obtain ⟨flagOf, hagrees, hfind⟩ := e.flags.exists_agrees
  have hdistinct := FlagTable.injOn_of_distinct hfind (Exporter.allots_of_ofNames hused).distinct
  refine ⟨_, ?_, ?_, fun chain => exists_spells_of_accepts hfind hplain hflags,
    fun hapart chain word => accepts_of_spells hfind hdistinct hplain hflags hapart⟩
  · have huses := alternativePatterns_uses [alternative]
    rw [hused] at hagrees hflags ⊢
    refine huses.runFrom_of_known (fun name hname => ?_) hagrees
    rw [List.flatMap_singleton] at hname
    obtain ⟨element, helement, hadds⟩ := List.mem_filterMap.mp hname
    exact hflags element helement name hadds
  · refine PatternFlag.readAll_render fun f hf => ?_
    obtain ⟨element, helement, hadds⟩ := List.mem_filterMap.mp hf
    have hflag := element.patternFlag?_flag flagOf
    rw [hadds, Option.map_some] at hflag
    obtain ⟨name, hname, hname_flag⟩ := Option.map_eq_some_iff.mp hflag.symm
    have hgiven := hfind name (hflags element helement name hname)
    rw [hused, hname_flag] at hgiven
    exact ne_of_mem_of_not_mem (FlagTable.mem_flagAlphabet_of_find? hgiven) (by decide)

namespace Inflection

def plural : SuffixAnalysis := ⟨"lar".toList, [], ['p'], []⟩

def dative : SuffixAnalysis := ⟨"ga".toList, [], ['c'], []⟩

/-- Neither the literal nor the option of an option adds a flag. -/
def alternative : Alternative :=
  [.optional (.setRef ['p']), .literal ['-'], .optional (.optional (.setRef ['q'])), .setRef ['c']]

def grammar : Grammar :=
  .ofDeclarations 1 [.set ['c'] [] [], .set ['p'] [] [], .rule ['n'] [] [alternative]]

def exporter : Exporter :=
  ((Exporter.mk grammar ['u', 'z'] .empty).answerAll ⟨[], []⟩ [.text]).1

theorem exporter_flags : exporter.flags = .ofNames grammar.flagNames := by
  rw [exporter, Exporter.answerAll_exporter FlagTable.ofNames_nil]
  rfl

theorem alternative_isUnglossed : ∀ element ∈ alternative, element.IsUnglossed := by
  simp [alternative, Element.IsUnglossed]

theorem alternative_flagged :
    ∀ element ∈ alternative, ∀ name ∈ element.flagName?, name ∈ exporter.flags.keys := by
  rw [exporter_flags, FlagTable.keys_ofNames]
  decide

theorem alternative_optionsApart : alternative.OptionsApart := by
  simp [Alternative.OptionsApart, alternative, Element.flagName?]

theorem exporter_patterns : ((alternativePatterns [alternative]).runFrom exporter.flags).1 =
    .ok [[⟨'B', true⟩, ⟨'A', false⟩]] := by
  rw [exporter_flags]
  rfl

theorem spells_both : exporter.flags.Spells [plural, dative] ['B', 'A'] := by
  rw [exporter_flags]
  exact .cons (by decide) (.cons (by decide) .nil)

end Inflection

/-- The pattern of the alternative is `B?A`. With both of its flags it spells a chain of a plural
and a dative, which the alternative matches. -/
theorem inflection_agrees :
    (∀ element ∈ Inflection.alternative, element.IsUnglossed) ∧
      (∀ element ∈ Inflection.alternative, ∀ name ∈ element.flagName?,
        name ∈ Inflection.exporter.flags.keys) ∧
      Inflection.alternative.OptionsApart ∧
      ((alternativePatterns [Inflection.alternative]).runFrom Inflection.exporter.flags).1 =
        .ok [[⟨'B', true⟩, ⟨'A', false⟩]] ∧
      Inflection.exporter.flags.Spells [Inflection.plural, Inflection.dative] ['B', 'A'] ∧
      accepts Inflection.alternative [Inflection.plural, Inflection.dative] := by
  obtain ⟨pattern, hrun, -, -, hcomplete⟩ := alternativePatterns_agree Inflection.grammar ['u', 'z']
    ⟨[], []⟩ [.text] rfl Inflection.alternative_isUnglossed Inflection.alternative_flagged
  have hpatterns := Except.ok.inj
    (Inflection.exporter_patterns.symm.trans (congrArg Prod.fst hrun))
  have hpattern : pattern = [⟨'B', true⟩, ⟨'A', false⟩] := by
    have hmem : [⟨'B', true⟩, ⟨'A', false⟩] ∈ [pattern].filter (!·.isEmpty) :=
      hpatterns ▸ List.mem_cons_self
    exact (List.mem_singleton.mp (List.mem_of_mem_filter hmem)).symm
  have hcompounds : Compounds pattern ['B', 'A'] := hpattern ▸ .present (.present .nil)
  exact ⟨Inflection.alternative_isUnglossed, Inflection.alternative_flagged,
    Inflection.alternative_optionsApart, Inflection.exporter_patterns, Inflection.spells_both,
    hcomplete Inflection.alternative_optionsApart _ _ Inflection.spells_both hcompounds⟩

end Morphotactics
