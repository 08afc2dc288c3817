import Mathlib
import Morphotactics.Proofs.Affix.Exporting
import Morphotactics.Proofs.Grammar.WellFormed

/-! The layout of affix files, read line by line. Counts stand in front of what they count, and this
holds of the lines of a file exactly if no text that is written into it has a line break. -/
namespace Morphotactics

/-- The lines of a suffix set with a flag and a number of suffixes. An empty set has none. -/
inductive SetSection (flag : Char) : (count : Nat) → (lines : List Text) → Prop
  | empty : SetSection flag 0 []
  | full {entries : List Text} (nonempty : entries ≠ [])
      (flagged : ∀ entry ∈ entries, ("SFX ".toList ++ [flag, ' ']) <+: entry) :
      SetSection flag entries.length
        (("SFX ".toList ++ flag :: " Y ".toList ++ Text.ofNat entries.length) :: entries ++ [[]])

/-- The lines of a rule block with its patterns. A block without patterns has none. -/
inductive RuleSection : (patterns : List Text) → (lines : List Text) → Prop
  | empty : RuleSection [] []
  | full {patterns : List Text} {note : Text} (nonempty : patterns ≠ [])
      (noted : "# Rule: ".toList <+: note) :
      RuleSection patterns (note :: patterns.map ("COMPOUNDRULE ".toList ++ ·) ++ [[]])

/-- The lines of an affix file: a head, the suffix sets with their flags and numbers of suffixes,
and the rule blocks with their patterns, which are counted in front if there are any. The last line
break has nothing behind it. -/
def AffixLayout (language : Text) (sets : List (Char × Nat)) (blocks : List (List Text))
    (lines : List Text) : Prop :=
  ∃ setSections blockSections : List (List Text),
    sets.Forall₂ (fun set => SetSection set.1 set.2) setSections ∧
      blocks.Forall₂ RuleSection blockSections ∧
        lines = ["SET UTF-8".toList, "LANG ".toList ++ language, []] ++ setSections.flatten ++
          (if blocks.flatten = [] then []
            else ["COMPOUNDRULE ".toList ++ Text.ofNat blocks.flatten.length]) ++
          blockSections.flatten ++ [[]]

namespace Text

variable {mark : Char} {text : Text}

theorem length_splitOn (mark : Char) (text : Text) :
    (splitOn mark text).length = text.count mark + 1 := by
  induction text with
  | nil => rfl
  | cons c rest ih =>
    rw [splitOn]
    split_ifs with hmark
    · rw [List.length_cons, ih, hmark, List.count_cons_self]
    · rw [List.count_cons_of_ne hmark]
      cases hrest : splitOn mark rest with
      | nil => simp [hrest] at ih
      | cons piece pieces => rwa [hrest] at ih

theorem splitOn_append_mark {piece : Text} (h : mark ∉ piece) (rest : Text) :
    splitOn mark (piece ++ mark :: rest) = piece :: splitOn mark rest := by
  induction piece with
  | nil => simp [splitOn]
  | cons c piece ih =>
    obtain ⟨hc, hpiece⟩ := not_or.mp (mt List.mem_cons.mpr h)
    rw [List.cons_append, splitOn, if_neg (Ne.symm hc), ih hpiece]

end Text

section Lines

variable {lines : List AffixLine}

/-- The line has no line break. -/
def AffixLine.Unbroken (line : AffixLine) : Prop :=
  '\n' ∉ line.render

theorem renderLines_cons (line : AffixLine) (rest : List AffixLine) :
    renderLines (line :: rest) = line.render ++ '\n' :: renderLines rest := by
  simp [renderLines]

theorem splitOn_renderLines (h : ∀ line ∈ lines, line.Unbroken) :
    Text.splitOn '\n' (renderLines lines) = lines.map AffixLine.render ++ [[]] := by
  induction lines with
  | nil => rfl
  | cons line rest ih =>
    obtain ⟨hline, hrest⟩ := List.forall_mem_cons.mp h
    rw [renderLines_cons, Text.splitOn_append_mark hline, ih hrest]
    rfl

theorem count_renderLines (lines : List AffixLine) :
    (renderLines lines).count '\n' =
      lines.length + (lines.map fun line => line.render.count '\n').sum := by
  induction lines with
  | nil => rfl
  | cons line rest ih =>
    rw [renderLines_cons, List.count_append, List.count_cons_self, ih, List.length_cons,
      List.map_cons, List.sum_cons]
    omega

/-- As many pieces as there are lines, and the last one, mean that no line is broken. -/
theorem unbroken_of_length_splitOn
    (h : (Text.splitOn '\n' (renderLines lines)).length = lines.length + 1) :
    ∀ line ∈ lines, line.Unbroken := by
  rw [Text.length_splitOn, count_renderLines] at h
  have hsum : (lines.map fun line => line.render.count '\n').sum = 0 := by omega
  intro line hline
  have hcount := List.sum_eq_zero_iff.mp hsum _ (List.mem_map_of_mem hline)
  exact List.count_eq_zero.mp hcount

end Lines

section Length

variable {language : Text} {sets : List (Char × Nat)} {blocks : List (List Text)}
  {lines others : List Text}

theorem SetSection.length_eq {flag : Char} {count : Nat} (h : SetSection flag count lines) :
    lines.length = if count = 0 then 0 else count + 2 := by
  cases h with
  | empty => rfl
  | full nonempty => simp [nonempty]

theorem RuleSection.length_eq {patterns : List Text} (h : RuleSection patterns lines) :
    lines.length = if patterns = [] then 0 else patterns.length + 2 := by
  cases h with
  | empty => rfl
  | full nonempty => simp [nonempty]

theorem length_flatten_eq {α : Type} {section? : α → List Text → Prop}
    (hsize : ∀ a lines others, section? a lines → section? a others → lines.length = others.length)
    {all : List α} {sections sections' : List (List Text)} (h : all.Forall₂ section? sections)
    (h' : all.Forall₂ section? sections') : sections.flatten.length = sections'.flatten.length := by
  induction h generalizing sections' with
  | nil =>
    cases h'
    rfl
  | cons first _ ih =>
    cases h' with
    | cons first' rest' =>
      rw [List.flatten_cons, List.flatten_cons, List.length_append, List.length_append,
        hsize _ _ _ first first', ih rest']

/-- The layout says how many lines there are. -/
theorem AffixLayout.length_eq (h : AffixLayout language sets blocks lines)
    (hothers : AffixLayout language sets blocks others) : lines.length = others.length := by
  obtain ⟨setSections, blockSections, hsets, hblocks, rfl⟩ := h
  obtain ⟨setSections', blockSections', hsets', hblocks', rfl⟩ := hothers
  have hset :=
    length_flatten_eq (fun _ _ _ h h' => h.length_eq.trans h'.length_eq.symm) hsets hsets'
  have hblock :=
    length_flatten_eq (fun _ _ _ h h' => h.length_eq.trans h'.length_eq.symm) hblocks hblocks'
  simp only [List.length_append, hset, hblock]

end Length

section Layout

variable (flagOf : Text → Char)

/-- The sets of a grammar with their flags and numbers of suffixes. -/
def Grammar.setCounts (g : Grammar) : List (Char × Nat) :=
  g.sets.values.map fun set => (flagOf set.name, set.suffixes.values.length)

/-- The rule blocks of a grammar with their patterns as they are written. -/
def Grammar.blockPatterns (g : Grammar) : List (List Text) :=
  g.allRules.map fun rule => (rule.patterns flagOf).map (List.flatMap PatternFlag.render)

def Rule.affixLines (rule : Rule) : List AffixLine :=
  if (rule.patterns flagOf).isEmpty then []
  else .ruleNote rule.name rule.description :: (rule.patterns flagOf).map .compound ++ [.blank]

theorem setSection_of_entries (flag : Char) {entries : List AffixEntry} (h : entries ≠ []) :
    SetSection flag entries.length ((AffixLine.header flag entries.length ::
      entries.map (.entry flag) ++ [AffixLine.blank]).map AffixLine.render) := by
  have hsection : SetSection flag _
      (_ :: (entries.map (.entry flag)).map AffixLine.render ++ [[]]) :=
    .full ?_ ?_
  · rw [List.length_map, List.length_map] at hsection
    rw [List.map_append, List.map_cons]
    exact hsection
  · rwa [ne_eq, List.map_eq_nil_iff, List.map_eq_nil_iff]
  · intro line hline
    obtain ⟨_, hmem, rfl⟩ := List.mem_map.mp hline
    obtain ⟨entry, -, rfl⟩ := List.mem_map.mp hmem
    exact ⟨entry.render, List.append_assoc _ _ _⟩

theorem SuffixSet.setSection (set : SuffixSet) :
    SetSection (flagOf set.name) set.suffixes.values.length
      ((set.affixLines flagOf).map AffixLine.render) := by
  unfold SuffixSet.affixLines
  dsimp only
  by_cases hvalues : set.suffixes.values = []
  · rw [hvalues, List.map_nil, List.isEmpty_nil, if_pos rfl]
    exact .empty
  · have hentries : set.suffixes.values.map
        (fun d => AffixEntry.ofDefinition d set.description) ≠ [] := by
      rwa [ne_eq, List.map_eq_nil_iff]
    rw [if_neg (by rwa [List.isEmpty_iff])]
    have h := setSection_of_entries (flagOf set.name) hentries
    rwa [List.length_map] at h ⊢

theorem Rule.ruleSection (rule : Rule) :
    RuleSection ((rule.patterns flagOf).map (List.flatMap PatternFlag.render))
      ((rule.affixLines flagOf).map AffixLine.render) := by
  unfold Rule.affixLines
  by_cases hpatterns : rule.patterns flagOf = []
  · rw [hpatterns, List.isEmpty_nil, if_pos rfl]
    exact .empty
  · rw [if_neg (by rwa [List.isEmpty_iff])]
    have h : RuleSection ((rule.patterns flagOf).map (List.flatMap PatternFlag.render))
        ((AffixLine.ruleNote rule.name rule.description).render :: _) :=
      .full (by rwa [ne_eq, List.map_eq_nil_iff]) ?_
    · rw [List.map_map] at h
      rw [List.map_append, List.map_cons, List.map_map]
      exact h
    · exact ⟨_, (List.append_assoc _ _ _).symm⟩

theorem flatMap_filter_isEmpty {α β : Type} (lines : α → List β) (isEmpty : α → Bool)
    (all : List α) :
    (all.filter (!isEmpty ·)).flatMap lines =
      all.flatMap fun a => if isEmpty a then [] else lines a := by
  induction all with
  | nil => rfl
  | cons a rest ih =>
    rw [filter_cons_isEmpty, List.flatMap_cons, ← ih]
    cases isEmpty a <;> rfl

/-- Rule blocks without patterns leave nothing behind. -/
theorem compoundBlocks_flatMap (g : Grammar) {α : Type}
    (lines : Rule × List (List PatternFlag) → List α) :
    (g.compoundBlocks flagOf).flatMap lines = g.allRules.flatMap fun rule =>
      if (rule.patterns flagOf).isEmpty then [] else lines (rule, rule.patterns flagOf) := by
  rw [Grammar.compoundBlocks,
    flatMap_filter_isEmpty lines fun block : Rule × List (List PatternFlag) => block.2.isEmpty,
    List.flatMap_map]

theorem compoundBlocks_patterns (g : Grammar) :
    (g.compoundBlocks flagOf).flatMap (·.2) = g.allRules.flatMap (Rule.patterns flagOf) := by
  rw [compoundBlocks_flatMap]
  refine List.flatMap_congr fun rule _ => ?_
  cases rule.patterns flagOf <;> rfl

theorem compoundLines_eq (g : Grammar) :
    compoundLines (g.compoundBlocks flagOf) =
      (if g.allRules.flatMap (Rule.patterns flagOf) = [] then []
        else [.compoundCount (g.allRules.flatMap (Rule.patterns flagOf)).length]) ++
      g.allRules.flatMap (Rule.affixLines flagOf) := by
  have hlines := compoundBlocks_flatMap flagOf g fun block =>
    AffixLine.ruleNote block.1.name block.1.description :: block.2.map .compound ++ [.blank]
  change _ = g.allRules.flatMap (Rule.affixLines flagOf) at hlines
  rw [compoundLines, ← compoundBlocks_patterns, ← hlines]
  cases hblocks : g.compoundBlocks flagOf with
  | nil => rfl
  | cons block rest =>
    have hmem : block ∈ g.compoundBlocks flagOf := hblocks ▸ List.mem_cons_self
    have hne : block.2 ≠ [] := by simpa using (List.mem_filter.mp hmem).2
    rw [List.isEmpty_cons, if_neg Bool.false_ne_true, if_neg (by simp [hne])]
    rfl

theorem flatten_blockPatterns (g : Grammar) :
    (g.blockPatterns flagOf).flatten =
      (g.allRules.flatMap (Rule.patterns flagOf)).map (List.flatMap PatternFlag.render) := by
  rw [Grammar.blockPatterns, List.map_flatMap]
  rfl

/-- The lines of a file as they are written have the layout. -/
theorem affixLayout_render (g : Grammar) (language : Text) :
    AffixLayout language (g.setCounts flagOf) (g.blockPatterns flagOf)
      ((g.affixLinesBy flagOf language).map AffixLine.render ++ [[]]) := by
  refine ⟨g.sets.values.map fun set => (set.affixLines flagOf).map AffixLine.render,
    g.allRules.map fun rule => (rule.affixLines flagOf).map AffixLine.render, ?_, ?_, ?_⟩
  · rw [Grammar.setCounts, List.forall₂_map_left_iff, List.forall₂_map_right_iff,
      List.forall₂_same]
    exact fun set _ => set.setSection flagOf
  · rw [Grammar.blockPatterns, List.forall₂_map_left_iff, List.forall₂_map_right_iff,
      List.forall₂_same]
    exact fun rule _ => rule.ruleSection flagOf
  · have hcount : (if (g.blockPatterns flagOf).flatten = [] then []
          else ["COMPOUNDRULE ".toList ++ Text.ofNat (g.blockPatterns flagOf).flatten.length]) =
        (if g.allRules.flatMap (Rule.patterns flagOf) = [] then []
          else [AffixLine.compoundCount
            (g.allRules.flatMap (Rule.patterns flagOf)).length]).map AffixLine.render := by
      rw [flatten_blockPatterns, List.length_map]
      cases g.allRules.flatMap (Rule.patterns flagOf) <;> rfl
    rw [Grammar.affixLinesBy, compoundLines_eq, hcount]
    simp only [List.map_append, List.map_flatMap, List.append_assoc, ← List.flatMap_def]
    rfl

end Layout

end Morphotactics
