import Mathlib
import Morphotactics.Proofs.Affix.Layout

/-! Which affix files have the layout that their counts announce. Descriptions, sets of characters,
patterns and replacements are written as they are; all other texts of a loaded grammar are words. -/
namespace Morphotactics

/-- No text that is written of the suffix has a line break. A replacement is written just at the
end of the stem. -/
structure SuffixDefinition.Unbroken (d : SuffixDefinition) : Prop where
  description : '\n' ∉ d.description
  characters : '\n' ∉ d.condition.characters
  pattern : '\n' ∉ d.condition.pattern
  replacement : d.condition.kind = .endsWith → '\n' ∉ d.condition.replacement

/-- No text that is written of the grammar has a line break. Of a rule just the description is
written, and only if some alternative uses a set. -/
structure Grammar.Unbroken (g : Grammar) : Prop where
  suffixes : ∀ owned ∈ g.suffixes, '\n' ∉ owned.1.description ∧ owned.2.Unbroken
  rules : ∀ rule ∈ g.allRules, rule.flagNames ≠ [] → '\n' ∉ rule.description

instance (d : SuffixDefinition) : Decidable d.Unbroken :=
  decidable_of_iff ('\n' ∉ d.description ∧ '\n' ∉ d.condition.characters ∧
      '\n' ∉ d.condition.pattern ∧ (d.condition.kind = .endsWith → '\n' ∉ d.condition.replacement))
    ⟨fun h => ⟨h.1, h.2.1, h.2.2.1, h.2.2.2⟩,
      fun h => ⟨h.description, h.characters, h.pattern, h.replacement⟩⟩

instance (g : Grammar) : Decidable g.Unbroken :=
  decidable_of_iff ((∀ owned ∈ g.suffixes, '\n' ∉ owned.1.description ∧ owned.2.Unbroken) ∧
      ∀ rule ∈ g.allRules, rule.flagNames ≠ [] → '\n' ∉ rule.description)
    ⟨fun h => ⟨h.1, h.2⟩, fun h => ⟨h.suffixes, h.rules⟩⟩

section Words

theorem newline_not_mem_ofNat (n : Nat) : '\n' ∉ Text.ofNat n := by
  intro h
  have hdecimal := isDecimal_of_mem_ofNat _ h
  rw [isDecimal_eq_false_of_isBlank isBlank_newline] at hdecimal
  cases hdecimal

theorem IsWord.newline_not_mem {word : Text} (h : IsWord word) : '\n' ∉ word :=
  h.not_mem (isIdentifierChar_eq_false_of_isBlank isBlank_newline) (by decide)

end Words

section Entries

variable {d : SuffixDefinition} {set : SuffixSet} {rule : Rule} {flagOf : Text → Char}

theorem conditionPattern_unbroken_iff {c : Condition} (hc : c.WellFormed) :
    '\n' ∉ AffixEntry.conditionPattern c ↔ '\n' ∉ c.characters ∧ '\n' ∉ c.pattern := by
  have hoperand : '\n' ∉ (if c.usesPattern then c.pattern else bracketed c.characters) ↔
      '\n' ∉ c.characters ∧ '\n' ∉ c.pattern := by
    cases hpattern : c.usesPattern with
    | true =>
      have hcharacters : c.characters = [] :=
        hc.one_operand.resolve_right (by simpa [Condition.usesPattern] using hpattern)
      simp [hcharacters]
    | false =>
      have hnone : c.pattern = [] := by simpa [Condition.usesPattern] using hpattern
      simp [bracketed, hnone]
  have hfixed (hends : c.kind ≠ .endsWith) (hstarts : c.kind ≠ .startsWith) {text : Text}
      (h : '\n' ∉ text) : '\n' ∉ text ↔ '\n' ∉ c.characters ∧ '\n' ∉ c.pattern := by
    obtain ⟨hcharacters, hpattern⟩ := hc.no_operand hends hstarts
    simp [hcharacters, hpattern, h]
  have hvowels : '\n' ∉ vowelClass none := by decide
  have hconsonants : '\n' ∉ consonantClass none := by decide
  unfold AffixEntry.conditionPattern
  cases hkind : c.kind with
  | endsWith | startsWith => exact hoperand
  | always =>
    rw [hkind] at hfixed
    exact hfixed nofun nofun (by decide : '\n' ∉ ['.'])
  | isVowel =>
    rw [hkind] at hfixed
    exact hfixed nofun nofun hvowels
  | isConsonant =>
    rw [hkind] at hfixed
    exact hfixed nofun nofun hconsonants

/-- A replacement is written in front of its suffix at the end of a stem, and nowhere else. -/
theorem append_unbroken_iff (hd : d.WellFormed) (setDescription : Text) :
    '\n' ∉ (AffixEntry.ofDefinition d setDescription).append ↔
      (d.condition.kind = .endsWith → '\n' ∉ d.condition.replacement) := by
  have hsuffix := hd.suffix.newline_not_mem
  unfold AffixEntry.ofDefinition
  dsimp only
  cases hreplaces : d.condition.replaces with
  | false =>
    have hnone : d.condition.replacement = [] := by simpa [Condition.replaces] using hreplaces
    simp [hsuffix, hnone]
  | true => by_cases hkind : d.condition.kind = .endsWith <;> simp [hsuffix, hkind]

theorem render_unbroken_iff (hd : d.WellFormed) (setDescription : Text) :
    '\n' ∉ (AffixEntry.ofDefinition d setDescription).render ↔
      '\n' ∉ setDescription ∧ d.Unbroken := by
  have hstrip := newline_not_mem_ofNat (AffixEntry.ofDefinition d setDescription).strip
  have hnote : '\n' ∉ " # ".toList := by decide
  have happend := append_unbroken_iff hd setDescription
  have hcondition := conditionPattern_unbroken_iff hd.condition
  have hfields : '\n' ∉ (AffixEntry.ofDefinition d setDescription).render ↔
      ('\n' ∉ (AffixEntry.ofDefinition d setDescription).append ∧
        '\n' ∉ AffixEntry.conditionPattern d.condition) ∧ '\n' ∉ setDescription ∧
          '\n' ∉ d.description := by
    simp only [AffixEntry.render, List.mem_append, List.mem_cons, not_or, hstrip, hnote,
      Char.reduceEq, not_false_eq_true, true_and, and_true, and_assoc]
    rfl
  rw [hfields, happend, hcondition]
  constructor
  · rintro ⟨⟨hreplacement, hcharacters, hpattern⟩, hset, hdescription⟩
    exact ⟨hset, hdescription, hcharacters, hpattern, hreplacement⟩
  · rintro ⟨hset, h⟩
    exact ⟨⟨h.replacement, h.characters, h.pattern⟩, hset, h.description⟩

theorem entry_unbroken_iff {flag : Char} (hflag : flag ≠ '\n') (entry : AffixEntry) :
    (AffixLine.entry flag entry).Unbroken ↔ '\n' ∉ entry.render := by
  have hstart : '\n' ∉ "SFX ".toList := by decide
  unfold AffixLine.Unbroken AffixLine.render
  simp only [List.mem_append, List.mem_cons, not_or, hstart, Char.reduceEq, not_false_eq_true,
    true_and]
  exact and_iff_right (Ne.symm hflag)

theorem header_unbroken {flag : Char} (hflag : flag ≠ '\n') (count : Nat) :
    (AffixLine.header flag count).Unbroken := by
  have hstart : '\n' ∉ "SFX ".toList := by decide
  have hmiddle : '\n' ∉ " Y ".toList := by decide
  unfold AffixLine.Unbroken AffixLine.render
  simp only [List.mem_append, List.mem_cons, not_or, hstart, hmiddle, newline_not_mem_ofNat,
    not_false_eq_true, true_and, and_true]
  exact Ne.symm hflag

theorem compoundCount_unbroken (count : Nat) : (AffixLine.compoundCount count).Unbroken := by
  have hstart : '\n' ∉ "COMPOUNDRULE ".toList := by decide
  unfold AffixLine.Unbroken AffixLine.render
  simp only [List.mem_append, not_or, hstart, newline_not_mem_ofNat, not_false_eq_true, and_self]

theorem ruleNote_unbroken_iff {name : Text} (hname : IsIdentifier name) (description : Text) :
    (AffixLine.ruleNote name description).Unbroken ↔ '\n' ∉ description := by
  have hstart : '\n' ∉ "# Rule: ".toList := by decide
  have hmiddle : '\n' ∉ " - ".toList := by decide
  unfold AffixLine.Unbroken AffixLine.render
  simp only [List.mem_append, not_or, hstart, hmiddle, hname.newline_not_mem, not_false_eq_true,
    true_and, and_true]

theorem compound_unbroken {pattern : List PatternFlag} (h : ∀ f ∈ pattern, f.flag ≠ '\n') :
    (AffixLine.compound pattern).Unbroken := by
  have hstart : '\n' ∉ "COMPOUNDRULE ".toList := by decide
  have hflags : '\n' ∉ pattern.flatMap PatternFlag.render := by
    rw [List.mem_flatMap]
    rintro ⟨f, hf, hmem⟩
    have hflag := Ne.symm (h f hf)
    unfold PatternFlag.render at hmem
    split_ifs at hmem <;> simp [hflag] at hmem
  unfold AffixLine.Unbroken AffixLine.render
  simp only [List.mem_append, not_or, hstart, hflags, not_false_eq_true, and_self]

theorem blank_unbroken : AffixLine.blank.Unbroken :=
  List.not_mem_nil

theorem SuffixSet.affixLines_unbroken_iff (hset : set.WellFormed) (hflag : flagOf set.name ≠ '\n') :
    (∀ line ∈ set.affixLines flagOf, line.Unbroken) ↔
      ∀ d ∈ set.suffixes.values, '\n' ∉ set.description ∧ d.Unbroken := by
  have hwell : ∀ d ∈ set.suffixes.values, d.WellFormed := by
    intro d hd
    obtain ⟨e, he, rfl⟩ := List.mem_map.mp hd
    exact hset.definitions e he
  have hentries : (∀ line ∈ (set.suffixes.values.map fun d =>
        AffixEntry.ofDefinition d set.description).map (AffixLine.entry (flagOf set.name)),
      line.Unbroken) ↔ ∀ d ∈ set.suffixes.values, '\n' ∉ set.description ∧ d.Unbroken := by
    rw [List.map_map, List.forall_mem_map]
    refine forall₂_congr fun d hd => ?_
    rw [← render_unbroken_iff (hwell d hd)]
    exact entry_unbroken_iff hflag _
  rw [← hentries]
  unfold affixLines
  dsimp only
  split_ifs with hempty
  · rw [List.isEmpty_iff.mp hempty]
    rfl
  · rw [List.cons_append, List.forall_mem_cons, List.forall_mem_append, List.forall_mem_singleton,
      and_iff_right (header_unbroken hflag _), and_iff_left blank_unbroken]

/-- The patterns of a rule have the flags of its names, in their order. -/
theorem Rule.patterns_flags (flagOf : Text → Char) (rule : Rule) :
    (rule.patterns flagOf).flatten.map PatternFlag.flag = rule.flagNames.map flagOf := by
  unfold patterns flagNames
  rw [List.flatten_filter_not_isEmpty]
  induction rule.alternatives with
  | nil => rfl
  | cons alternative rest ih =>
    rw [List.map_cons, List.flatten_cons, List.map_append, ih, List.flatMap_cons, List.map_append,
      List.map_filterMap, List.map_filterMap]
    simp only [Element.patternFlag?_flag]

theorem Rule.patterns_eq_nil_iff (flagOf : Text → Char) (rule : Rule) :
    rule.patterns flagOf = [] ↔ rule.flagNames = [] := by
  have hflags := rule.patterns_flags flagOf
  constructor
  · intro h
    rw [h, List.flatten_nil, List.map_nil] at hflags
    exact List.map_eq_nil_iff.mp hflags.symm
  · intro h
    rw [h, List.map_nil, List.map_eq_nil_iff, List.flatten_eq_nil_iff] at hflags
    refine List.eq_nil_iff_forall_not_mem.mpr fun pattern hpattern => ?_
    have hnonempty := (List.mem_filter.mp hpattern).2
    rw [hflags pattern hpattern] at hnonempty
    cases hnonempty

theorem Rule.affixLines_unbroken_iff (hrule : rule.WellFormed)
    (hflags : ∀ name ∈ rule.flagNames, flagOf name ≠ '\n') :
    (∀ line ∈ rule.affixLines flagOf, line.Unbroken) ↔
      (rule.flagNames ≠ [] → '\n' ∉ rule.description) := by
  have hcompound : ∀ line ∈ (rule.patterns flagOf).map AffixLine.compound, line.Unbroken := by
    rw [List.forall_mem_map]
    refine fun pattern hpattern => compound_unbroken fun f hf => ?_
    have hmem : f.flag ∈ rule.flagNames.map flagOf := by
      rw [← rule.patterns_flags]
      exact List.mem_map_of_mem (List.mem_flatten.mpr ⟨pattern, hpattern, hf⟩)
    obtain ⟨name, hname, hflag⟩ := List.mem_map.mp hmem
    exact hflag ▸ hflags name hname
  rw [ne_eq, ← rule.patterns_eq_nil_iff flagOf, ← List.isEmpty_iff]
  unfold affixLines
  split_ifs with hempty
  · simp [hempty]
  · rw [List.cons_append, List.forall_mem_cons, List.forall_mem_append, List.forall_mem_singleton,
      and_iff_left ⟨hcompound, blank_unbroken⟩, ruleNote_unbroken_iff hrule.name]
    exact ⟨fun h _ => h, fun h => h hempty⟩

theorem language_unbroken {language : Text} (h : '\n' ∉ language) :
    (AffixLine.language language).Unbroken := by
  have hstart : '\n' ∉ "LANG ".toList := by decide
  exact fun hmem => (List.mem_append.mp hmem).elim hstart h

/-- The lines of a grammar are unbroken exactly if the texts written in them are. -/
theorem affixLinesBy_unbroken_iff {g : Grammar} (hg : g.WellFormed) {language : Text}
    (hlanguage : '\n' ∉ language) (hflags : ∀ name ∈ g.flagNames, flagOf name ≠ '\n') :
    (∀ line ∈ g.affixLinesBy flagOf language, line.Unbroken) ↔ g.Unbroken := by
  obtain ⟨hsetFlags, hruleFlags⟩ := List.forall_mem_append.mp hflags
  have hencoding : AffixLine.encoding.Unbroken := (by decide : '\n' ∉ "SET UTF-8".toList)
  have hhead : ∀ line ∈ [AffixLine.encoding, .language language, .blank], line.Unbroken := by
    simp [hencoding, language_unbroken hlanguage, blank_unbroken]
  have hsets : (∀ line ∈ g.sets.values.flatMap (SuffixSet.affixLines flagOf), line.Unbroken) ↔
      ∀ owned ∈ g.suffixes, '\n' ∉ owned.1.description ∧ owned.2.Unbroken := by
    unfold Grammar.suffixes
    rw [List.forall_mem_flatMap, List.forall_mem_flatMap]
    refine forall₂_congr fun set hset => ?_
    have hwell : set.WellFormed := by
      obtain ⟨e, he, rfl⟩ := List.mem_map.mp hset
      exact hg.sets e he
    rw [set.affixLines_unbroken_iff hwell (hsetFlags _ (List.mem_map_of_mem hset)),
      List.forall_mem_map]
  have hcount : ∀ line ∈ (if g.allRules.flatMap (Rule.patterns flagOf) = [] then []
      else [AffixLine.compoundCount (g.allRules.flatMap (Rule.patterns flagOf)).length]),
        line.Unbroken := by
    split_ifs
    · exact List.forall_mem_nil _
    · exact List.forall_mem_singleton.mpr (compoundCount_unbroken _)
  have hrules : (∀ line ∈ g.allRules.flatMap (Rule.affixLines flagOf), line.Unbroken) ↔
      ∀ rule ∈ g.allRules, rule.flagNames ≠ [] → '\n' ∉ rule.description := by
    rw [List.forall_mem_flatMap]
    refine forall₂_congr fun rule hrule => rule.affixLines_unbroken_iff ?_ fun name hname =>
      hruleFlags name (List.mem_flatMap.mpr ⟨rule, hrule, hname⟩)
    obtain ⟨blocks, hblocks, hmem⟩ := List.mem_flatten.mp hrule
    obtain ⟨e, he, rfl⟩ := List.mem_map.mp hblocks
    exact hg.rules e he rule hmem
  unfold Grammar.affixLinesBy
  rw [compoundLines_eq, List.forall_mem_append, List.forall_mem_append, List.forall_mem_append,
    and_iff_right hhead, and_iff_right hcount, hsets, hrules]
  exact ⟨fun h => ⟨h.1, h.2⟩, fun h => ⟨h.suffixes, h.rules⟩⟩

end Entries

section Files

variable {g : Grammar} {language : Text}

/-- The pieces of a file between its line breaks have the layout exactly if no line is broken. -/
theorem affixLayout_iff (g : Grammar) (language : Text) (flagOf : Text → Char) :
    AffixLayout language (g.setCounts flagOf) (g.blockPatterns flagOf)
        (Text.splitOn '\n' (renderLines (g.affixLinesBy flagOf language))) ↔
      ∀ line ∈ g.affixLinesBy flagOf language, line.Unbroken := by
  have hrender := affixLayout_render flagOf g language
  constructor
  · intro h
    -- The layout leaves no choice in the number of lines, and a broken line would add one.
    refine unbroken_of_length_splitOn ((h.length_eq hrender).trans ?_)
    rw [List.length_append, List.length_map, List.length_singleton]
  · intro h
    rwa [splitOn_renderLines h]

theorem ne_newline_of_find? {used : List Text} {name : Text} {flag : Char}
    (h : (FlagTable.ofNames used).find? name = some flag) : flag ≠ '\n' := by
  rintro rfl
  exact absurd (FlagTable.mem_flagAlphabet_of_find? h) (by decide)

/-- Whatever an exporter was asked for before: if there are flags for all names, the text that it
gives for a loaded grammar has the layout that its counts announce exactly if no text written into
it has a line break. -/
theorem answer_text_layout_iff {serial : Nat} {source : Text}
    (hloaded : (Loading.ofText serial source).outcome = .ok g) (hlanguage : '\n' ∉ language)
    (folder : Folder) (calls : List ExportCall)
    (hnames : (calls.flatMap (·.names g) ++ g.flagNames).eraseDups.length ≤ 62) :
    let (e, here) := (Exporter.mk g language .empty).answerAll folder calls
    ∃ text later flagOf, e.answer here .text = (.ok (.text text), later, here) ∧
      (∀ name ∈ g.flagNames, later.flags.find? name = some (flagOf name)) ∧
        (AffixLayout language (g.setCounts flagOf) (g.blockPatterns flagOf)
          (Text.splitOn '\n' text) ↔ g.Unbroken) := by
  have hexporter := Exporter.answerAll_exporter (e := ⟨g, language, .empty⟩) FlagTable.ofNames_nil
    folder calls
  cases hcalls : (Exporter.mk g language .empty).answerAll folder calls with
  | mk e here =>
    rw [hcalls] at hexporter
    obtain rfl := hexporter
    obtain ⟨text, hanswer, flagOf, hflags, rfl⟩ :=
      Exporter.answer_text_of_enough (e := ⟨g, language, _⟩) rfl hnames here
    refine ⟨_, _, flagOf, hanswer, hflags, ?_⟩
    rw [affixLayout_iff]
    refine affixLinesBy_unbroken_iff (Grammar.wellFormed_of_loaded hloaded) hlanguage ?_
    exact fun name hname => ne_newline_of_find? (hflags name hname)

namespace Breaks

/-- A set of two suffixes, and a rule that uses it. -/
def plainSource : Text :=
  "SUFFIX s \x7b a: \"x\", b: \"y\" \x7d RULE r \x7b @s \x7d".toList

def plainDeclarations : List Declaration :=
  [.set ['s'] [] [⟨['a'], ['x'], {}⟩, ⟨['b'], ['y'], {}⟩], .rule ['r'] [] [[.setRef ['s']]]]

def plain : Grammar :=
  .ofDeclarations 1 plainDeclarations

theorem plain_loaded : (Loading.ofText 1 plainSource).outcome = .ok plain := by
  have hread : declarationsOf? 2 plainSource = some plainDeclarations := by cbv
  exact ofText_of_declarationsOf? hread 1

/-- What the suffix means goes on in a line of its own, which looks like another suffix. -/
def meaning : Text :=
  "x\nSFX A 0 b . # :y".toList

def imitationSource : Text :=
  "SUFFIX s \x7b a: \"".toList ++ meaning ++ "\" \x7d".toList

def imitation : Grammar :=
  .ofDeclarations 1 [.set ['s'] [] [⟨['a'], meaning, {}⟩]]

/-- One suffix is announced, and two lines follow that begin with its flag. -/
def imitationText : Text :=
  "SET UTF-8\nLANG uz\n\nSFX A Y 1\nSFX A 0 a . # :x\nSFX A 0 b . # :y\n\n".toList

theorem imitation_loaded : (Loading.ofText 1 imitationSource).outcome = .ok imitation := by
  have hread : declarationsOf? 1 imitationSource = some [.set ['s'] [] [⟨['a'], meaning, {}⟩]] := by
    cbv
  exact ofText_of_declarationsOf? hread 1

theorem imitation_lines (flagOf : Text → Char) :
    imitation.affixLinesBy flagOf "uz".toList =
      [.encoding, .language "uz".toList, .blank, .header (flagOf ['s']) 1,
        .entry (flagOf ['s']) ⟨0, ['a'], ['.'], [], meaning⟩, .blank] :=
  rfl

theorem imitation_answer : ((Exporter.mk imitation "uz".toList .empty).answer ⟨[], []⟩ .text).1 =
    .ok (.text imitationText) := by
  obtain ⟨text, hanswer, flagOf, hflags, rfl⟩ := Exporter.answer_text_of_enough
    (e := ⟨imitation, "uz".toList, .empty⟩) FlagTable.ofNames_nil (by decide) ⟨[], []⟩
  have hname : flagOf ['s'] = 'A' := (Option.some.inj (hflags ['s'] (by decide))).symm
  rw [hanswer, imitation_lines, hname]
  decide

end Breaks

/-- Descriptions that stay on their lines leave the layout as it is. -/
theorem plain_laidOut :
    (Loading.ofText 1 Breaks.plainSource).outcome = .ok Breaks.plain ∧ '\n' ∉ "uz".toList ∧
      ([].flatMap (ExportCall.names Breaks.plain) ++ Breaks.plain.flagNames).eraseDups.length ≤ 62 ∧
        ∃ text later flagOf,
          Exporter.answer ⟨Breaks.plain, "uz".toList, .empty⟩ ⟨[], []⟩ .text =
            (.ok (.text text), later, ⟨[], []⟩) ∧
          AffixLayout "uz".toList (Breaks.plain.setCounts flagOf)
            (Breaks.plain.blockPatterns flagOf) (Text.splitOn '\n' text) := by
  have hlanguage : '\n' ∉ "uz".toList := by decide
  have hnames : ([].flatMap (ExportCall.names Breaks.plain) ++
      Breaks.plain.flagNames).eraseDups.length ≤ 62 := by
    decide
  obtain ⟨text, later, flagOf, hanswer, -, hlayout⟩ :=
    answer_text_layout_iff Breaks.plain_loaded hlanguage ⟨[], []⟩ [] hnames
  exact ⟨Breaks.plain_loaded, hlanguage, hnames, text, later, flagOf, hanswer,
    hlayout.mpr (by decide)⟩

/-- A description with a line break adds a line that no count announces. -/
theorem imitation_not_laidOut :
    (Loading.ofText 1 Breaks.imitationSource).outcome = .ok Breaks.imitation ∧
      Breaks.imitation.flagNames.eraseDups.length ≤ 62 ∧ '\n' ∉ "uz".toList ∧
        (Exporter.answer ⟨Breaks.imitation, "uz".toList, .empty⟩ ⟨[], []⟩ .text).1 =
          .ok (.text Breaks.imitationText) ∧
        ¬ ∃ flagOf, AffixLayout "uz".toList (Breaks.imitation.setCounts flagOf)
          (Breaks.imitation.blockPatterns flagOf) (Text.splitOn '\n' Breaks.imitationText) := by
  refine ⟨Breaks.imitation_loaded, by decide, by decide, Breaks.imitation_answer, ?_⟩
  rintro ⟨flagOf, hlayout⟩
  have hlength := hlayout.length_eq (affixLayout_render flagOf Breaks.imitation "uz".toList)
  have hpieces : (Text.splitOn '\n' Breaks.imitationText).length = 8 := by decide
  rw [Breaks.imitation_lines, hpieces] at hlength
  cases hlength

end Files

end Morphotactics
