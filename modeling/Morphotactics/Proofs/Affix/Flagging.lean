import Mathlib
import Morphotactics.Affix
import Morphotactics.Proofs.Table

/-! How flags are given out. An action on flags uses names one after the other. Each name is given
the next flag at its first use, and the action fails at the first name that finds none. What the
action gives, as a function of the flags of its names, does not depend on when they were given. -/
namespace Morphotactics

namespace FlagTable

/-- The names in order of first use, as far as there are flags. -/
def allotted (used : List Text) : List Text :=
  used.eraseDups.take flagAlphabet.length

/-- The flags that are given out once names have been used in this order. -/
def ofNames (used : List Text) : FlagTable where
  entries := (allotted used).zip flagAlphabet
  nodup := by
    have hkeys : ((allotted used).zip flagAlphabet).map Prod.fst = allotted used :=
      List.map_fst_zip (List.length_take_le _ _)
    rw [hkeys]
    exact (Table.nodup_eraseDups used).sublist (List.take_sublist _ _)

/-- The first of the names that has no flag. -/
def lacking? (flags : FlagTable) (names : List Text) : Option Text :=
  names.find? (· ∉ flags.keys)

/-- The function gives every name with a flag its flag. -/
def Agrees (flags : FlagTable) (flagOf : Text → Char) : Prop :=
  ∀ name flag, flags.find? name = some flag → flagOf name = flag

variable {flags : FlagTable} {used names others : List Text} {name : Text} {flag : Char}

section Allotted

theorem allotted_length_le (used : List Text) : (allotted used).length ≤ flagAlphabet.length :=
  List.length_take_le _ _

theorem allotted_extends (used names : List Text) : allotted used <+: allotted (used ++ names) := by
  unfold allotted
  rw [Table.eraseDups_append_filter]
  exact (List.prefix_append _ _).take _

theorem allotted_of_enough (h : used.eraseDups.length ≤ flagAlphabet.length) :
    allotted used = used.eraseDups :=
  List.take_of_length_le h

theorem allotted_of_room (h : (allotted used).length < flagAlphabet.length) :
    allotted used = used.eraseDups := by
  rw [allotted, List.length_take] at h
  exact allotted_of_enough (by omega)

/-- A name is passed over only if all flags are in use. -/
theorem length_allotted_of_lacking (hname : name ∈ used) (h : name ∉ allotted used) :
    (allotted used).length = flagAlphabet.length := by
  refine (allotted_length_le used).antisymm (Nat.le_of_not_lt fun hroom => h ?_)
  rw [allotted_of_room hroom]
  exact List.mem_eraseDups.mpr hname

theorem allotted_append_of_full (hfull : (allotted used).length = flagAlphabet.length)
    (names : List Text) : allotted (used ++ names) = allotted used :=
  ((allotted_extends used names).eq_of_length_le (hfull ▸ allotted_length_le _)).symm

theorem allotted_append_of_mem (h : name ∈ allotted used) :
    allotted (used ++ [name]) = allotted used := by
  rw [allotted, Table.eraseDups_append_singleton, if_pos (List.mem_of_mem_take h), allotted]

theorem allotted_append_of_room (hname : name ∉ allotted used)
    (hroom : (allotted used).length < flagAlphabet.length) :
    allotted (used ++ [name]) = allotted used ++ [name] := by
  have hused := allotted_of_room hroom
  rw [hused] at hname hroom ⊢
  have hdups : (used ++ [name]).eraseDups = used.eraseDups ++ [name] := by
    rw [Table.eraseDups_append_singleton, if_neg hname]
  rw [allotted_of_enough (by rw [hdups, List.length_append]; exact hroom), hdups]

end Allotted

section Flags

theorem exists_agrees (flags : FlagTable) :
    ∃ flagOf, flags.Agrees flagOf ∧ ∀ name ∈ flags.keys, flags.find? name = some (flagOf name) := by
  refine ⟨fun name => (flags.find? name).getD ' ', fun name flag hflag => ?_, fun name hname => ?_⟩
  · dsimp only
    rw [hflag, Option.getD_some]
  · obtain ⟨flag, hflag⟩ := Table.mem_keys_iff.mp hname
    dsimp only
    rw [hflag, Option.getD_some]

theorem entries_ofNames (used : List Text) :
    (ofNames used).entries = (allotted used).zip flagAlphabet :=
  rfl

theorem keys_ofNames (used : List Text) : (ofNames used).keys = allotted used :=
  List.map_fst_zip (allotted_length_le used)

theorem size_ofNames (used : List Text) : (ofNames used).size = (allotted used).length := by
  rw [← keys_ofNames, Table.keys, List.length_map, Table.size]

theorem ofNames_eq (h : allotted used = allotted others) : ofNames used = ofNames others :=
  Table.ext_entries (congrArg (·.zip flagAlphabet) h)

theorem zip_append_drop {α β : Type} (first second : List α) (values : List β) :
    (first ++ second).zip values =
      first.zip values ++ second.zip (values.drop first.length) := by
  induction first generalizing values with
  | nil => rfl
  | cons a rest ih =>
    cases values with
    | nil => simp
    | cons b values => simp [ih]

/-- A name that has a flag keeps it. -/
theorem ofNames_extends (used names : List Text) :
    (ofNames used).entries <+: (ofNames (used ++ names)).entries := by
  obtain ⟨rest, hrest⟩ := allotted_extends used names
  rw [entries_ofNames, entries_ofNames, ← hrest, zip_append_drop]
  exact List.prefix_append _ _

theorem ofNames_nil : (Table.empty : FlagTable) = ofNames [] :=
  rfl

theorem find?_ofNames_append (h : (ofNames used).find? name = some flag) (names : List Text) :
    (ofNames (used ++ names)).find? name = some flag :=
  Table.find?_eq_some_iff.mpr <|
    (ofNames_extends used names).subset (Table.find?_eq_some_iff.mp h)

theorem mem_flagAlphabet_of_find? (h : (ofNames used).find? name = some flag) :
    flag ∈ flagAlphabet :=
  (List.of_mem_zip (Table.find?_eq_some_iff.mp h)).2

theorem Agrees.of_append {flagOf : Text → Char} (h : (ofNames (used ++ names)).Agrees flagOf) :
    (ofNames used).Agrees flagOf :=
  fun name flag hflag => h name flag (find?_ofNames_append hflag names)

/-- The flags are given out in their order. -/
theorem values_ofNames (used : List Text) :
    (ofNames used).values = flagAlphabet.take (ofNames used).size := by
  have hlength := allotted_length_le used
  rw [size_ofNames, Table.values, entries_ofNames, List.zip_eq_zip_take_min,
    Nat.min_eq_left hlength, List.take_length]
  exact List.map_snd_zip (List.length_take_le _ _)

theorem length_allotted_of_none (h : flagAlphabet[(ofNames used).size]? = none) :
    (allotted used).length = flagAlphabet.length := by
  rw [size_ofNames] at h
  exact (allotted_length_le used).antisymm (List.getElem?_eq_none_iff.mp h)

theorem ofNames_append_of_room (hname : name ∉ allotted used)
    (hnext : flagAlphabet[(ofNames used).size]? = some flag) :
    ofNames (used ++ [name]) = (ofNames used).insert name flag := by
  rw [size_ofNames] at hnext
  obtain ⟨hroom, hflag⟩ := List.getElem?_eq_some_iff.mp hnext
  have hfresh : name ∉ (ofNames used).keys := keys_ofNames used ▸ hname
  apply Table.ext_entries
  rw [Table.entries_insert_of_fresh hfresh, entries_ofNames, entries_ofNames,
    allotted_append_of_room hname hroom, zip_append_drop, List.drop_eq_getElem_cons hroom, hflag]
  rfl

theorem full_of_find?_eq_none (h : (ofNames (used ++ [name])).find? name = none) :
    (ofNames used).find? name = none ∧ (ofNames used).size = flagAlphabet.length := by
  have hlacking : name ∉ allotted (used ++ [name]) := by
    rw [← keys_ofNames]
    exact Table.find?_eq_none_iff.mp h
  have hfresh : name ∉ allotted used := fun hname =>
    hlacking ((allotted_extends used [name]).subset hname)
  constructor
  · rwa [Table.find?_eq_none_iff, keys_ofNames]
  · rw [size_ofNames]
    refine (allotted_length_le used).antisymm (Nat.le_of_not_lt fun hroom => hlacking ?_)
    rw [allotted_append_of_room hfresh hroom]
    exact List.mem_append_right _ List.mem_cons_self

end Flags

section Lacking

theorem lacking?_eq_none_iff :
    flags.lacking? names = none ↔ ∀ name ∈ names, name ∈ flags.keys := by
  simp [lacking?]

theorem lacking?_of_mem (h : name ∈ flags.keys) : flags.lacking? [name] = none :=
  lacking?_eq_none_iff.mpr (List.forall_mem_singleton.mpr h)

theorem lacking?_of_not_mem (h : name ∉ flags.keys) : flags.lacking? [name] = some name :=
  List.find?_cons_of_pos (decide_eq_true h)

theorem lacking?_ofNames_of_enough (h : (used ++ names).eraseDups.length ≤ flagAlphabet.length) :
    (ofNames (used ++ names)).lacking? names = none := by
  refine lacking?_eq_none_iff.mpr fun name hname => ?_
  rw [keys_ofNames, allotted_of_enough h, List.mem_eraseDups]
  exact List.mem_append_right _ hname

/-- Once a name has found no flag, later ones do not change anything. -/
theorem append_of_lacking (h : (ofNames (used ++ names)).lacking? names = some name)
    (others : List Text) :
    ofNames (used ++ (names ++ others)) = ofNames (used ++ names) ∧
      (ofNames (used ++ (names ++ others))).lacking? (names ++ others) = some name := by
  have hname : name ∈ used ++ names := List.mem_append_right _ (List.mem_of_find?_eq_some h)
  have hlacking : name ∉ allotted (used ++ names) := by
    have hkeys := List.find?_some h
    rwa [decide_eq_true_iff, keys_ofNames] at hkeys
  have hsame : ofNames (used ++ (names ++ others)) = ofNames (used ++ names) := by
    rw [← List.append_assoc]
    exact ofNames_eq (allotted_append_of_full (length_allotted_of_lacking hname hlacking) others)
  refine ⟨hsame, ?_⟩
  rw [hsame, lacking?, List.find?_append]
  exact congrArg (Option.or · _) h

theorem append_of_enough (h : (ofNames (used ++ names)).lacking? names = none)
    (others : List Text) :
    (ofNames (used ++ (names ++ others))).lacking? (names ++ others) =
      (ofNames (used ++ names ++ others)).lacking? others := by
  have hfirst : (ofNames (used ++ names ++ others)).lacking? names = none := by
    refine lacking?_eq_none_iff.mpr fun name hname => ?_
    rw [keys_ofNames]
    refine (allotted_extends (used ++ names) others).subset ?_
    rw [← keys_ofNames]
    exact lacking?_eq_none_iff.mp h name hname
  rw [← List.append_assoc, lacking?, List.find?_append]
  exact congrArg (Option.or · _) hfirst

end Lacking

end FlagTable

namespace Flagging

variable {α β : Type} {names others : List Text}

section Runs

theorem runFrom_bind (action : Flagging α) (next : α → Flagging β) (flags : FlagTable) :
    (action >>= next).runFrom flags =
      match action.runFrom flags with
      | (.ok a, flags) => (next a).runFrom flags
      | (.error e, flags) => (.error e, flags) := by
  unfold runFrom
  rw [ExceptT.run_bind, StateT.run_bind]
  cases (ExceptT.run action).run flags with
  | mk result flags => cases result <;> rfl

theorem runFrom_flagFor (name : Text) (flags : FlagTable) :
    (flagFor name).runFrom flags =
      match flags.find? name, flagAlphabet[flags.size]? with
      | some flag, _ => (.ok flag, flags)
      | none, some flag => (.ok flag, flags.insert name flag)
      | none, none => (.error ⟨name⟩, flags) := by
  have hget : (get : Flagging FlagTable).runFrom flags = (.ok flags, flags) := rfl
  rw [flagFor, runFrom_bind, hget]
  dsimp only
  cases flags.find? name with
  | some flag => rfl
  | none => cases flagAlphabet[flags.size]? <;> rfl

end Runs

/-- The action uses the names in their order, and gives the value that goes with their flags. -/
def Uses (action : Flagging α) (names : List Text) (value : (Text → Char) → α) : Prop :=
  ∀ (used : List Text) (flagOf : Text → Char),
    (FlagTable.ofNames (used ++ names)).Agrees flagOf →
      action.runFrom (.ofNames used) =
        (match (FlagTable.ofNames (used ++ names)).lacking? names with
          | none => .ok (value flagOf)
          | some name => .error ⟨name⟩,
        .ofNames (used ++ names))

theorem Uses.pure (a : α) : (pure a : Flagging α).Uses [] fun _ => a := by
  intro used flagOf _
  rw [List.append_nil]
  rfl

theorem Uses.bind {action : Flagging α} {next : α → Flagging β} {value : (Text → Char) → α}
    {more : α → (Text → Char) → β} (h : action.Uses names value)
    (hnext : ∀ a, (next a).Uses others (more a)) :
    (action >>= next).Uses (names ++ others) fun flagOf => more (value flagOf) flagOf := by
  intro used flagOf hagrees
  rw [runFrom_bind]
  rw [← List.append_assoc] at hagrees
  rw [h used flagOf hagrees.of_append]
  cases hlacking : (FlagTable.ofNames (used ++ names)).lacking? names with
  | none =>
    rw [FlagTable.append_of_enough hlacking, ← List.append_assoc]
    exact hnext _ _ flagOf hagrees
  | some name =>
    obtain ⟨hsame, hlater⟩ := FlagTable.append_of_lacking hlacking others
    rw [hlater, hsame]

theorem Uses.map {action : Flagging α} {value : (Text → Char) → α} (h : action.Uses names value)
    (f : α → β) :
    (action >>= fun a => Pure.pure (f a)).Uses names fun flagOf => f (value flagOf) := by
  have hbind := h.bind fun a => Uses.pure (f a)
  rwa [List.append_nil] at hbind

theorem flagFor_uses (name : Text) : (flagFor name).Uses [name] fun flagOf => flagOf name := by
  intro used flagOf hagrees
  rw [runFrom_flagFor]
  dsimp only
  by_cases hname : name ∈ FlagTable.allotted used
  · have hsame := FlagTable.ofNames_eq (FlagTable.allotted_append_of_mem hname)
    rw [← FlagTable.keys_ofNames] at hname
    obtain ⟨flag, hflag⟩ := Table.mem_keys_iff.mp hname
    rw [hsame] at hagrees ⊢
    rw [hflag, FlagTable.lacking?_of_mem hname, hagrees name flag hflag]
  · have hfresh : name ∉ (FlagTable.ofNames used).keys := FlagTable.keys_ofNames used ▸ hname
    rw [Table.find?_eq_none_iff.mpr hfresh]
    cases hnext : flagAlphabet[(FlagTable.ofNames used).size]? with
    | some flag =>
      have hgiven := FlagTable.ofNames_append_of_room hname hnext
      have hflag : (FlagTable.ofNames (used ++ [name])).find? name = some flag := by
        rw [hgiven, Table.find?_insert, if_pos rfl]
      rw [FlagTable.lacking?_of_mem (Table.mem_keys_iff.mpr ⟨flag, hflag⟩),
        hagrees name flag hflag, hgiven]
    | none =>
      have hfull := FlagTable.length_allotted_of_none hnext
      rw [FlagTable.ofNames_eq (FlagTable.allotted_append_of_full hfull [name]),
        FlagTable.lacking?_of_not_mem hfresh]

end Flagging

section Affix

variable (flagOf : Text → Char)

/-! What is written of a grammar, as a function of the flags of its sets. -/

def SuffixSet.affixLines (set : SuffixSet) : List AffixLine :=
  let entries := set.suffixes.values.map fun d => AffixEntry.ofDefinition d set.description
  if entries.isEmpty then []
  else
    .header (flagOf set.name) entries.length :: entries.map (.entry (flagOf set.name)) ++ [.blank]

/-- The set whose flag an element adds to a pattern. -/
def Element.flagName? : Element → Option Text
  | .setRef name | .optional (.setRef name) => some name
  | .optional _ | .literal _ | .glossed _ => none

def Element.patternFlag? : Element → Option PatternFlag
  | .setRef name => some ⟨flagOf name, false⟩
  | .optional (.setRef name) => some ⟨flagOf name, true⟩
  | .optional _ | .literal _ | .glossed _ => none

theorem Element.patternFlag?_flag (e : Element) :
    (e.patternFlag? flagOf).map PatternFlag.flag = e.flagName?.map flagOf := by
  cases e with
  | literal | glossed | setRef => rfl
  | optional child => cases child <;> rfl

/-- The patterns of a rule. An alternative without sets has none. -/
def Rule.patterns (rule : Rule) : List (List PatternFlag) :=
  (rule.alternatives.map (List.filterMap (Element.patternFlag? flagOf))).filter (!·.isEmpty)

/-- The names that the patterns of a rule use, in their order. -/
def Rule.flagNames (rule : Rule) : List Text :=
  rule.alternatives.flatMap (List.filterMap Element.flagName?)

/-- The names that an affix file uses, in their order. -/
def Grammar.flagNames (g : Grammar) : List Text :=
  g.sets.values.map (·.name) ++ g.allRules.flatMap Rule.flagNames

def Grammar.compoundBlocks (g : Grammar) : List (Rule × List (List PatternFlag)) :=
  (g.allRules.map fun rule => (rule, rule.patterns flagOf)).filter (!·.2.isEmpty)

def Grammar.affixLinesBy (g : Grammar) (language : Text) : List AffixLine :=
  [.encoding, .language language, .blank] ++
    g.sets.values.flatMap (SuffixSet.affixLines flagOf) ++ compoundLines (g.compoundBlocks flagOf)

end Affix

section Uses

open Flagging

theorem suffixLines_uses (set : SuffixSet) :
    (suffixLines set).Uses [set.name] fun flagOf => set.affixLines flagOf := by
  have h := (flagFor_uses set.name).map fun flag =>
    set.affixLines fun _ => flag
  unfold suffixLines
  simp only [SuffixSet.affixLines] at h ⊢
  simpa only [apply_ite pure] using h

theorem setLines_uses (sets : List SuffixSet) :
    (setLines sets).Uses (sets.map (·.name)) fun flagOf =>
      sets.flatMap (SuffixSet.affixLines flagOf) := by
  induction sets with
  | nil => exact .pure []
  | cons set rest ih => exact (suffixLines_uses set).bind fun lines => ih.map (lines ++ ·)

theorem elementFlag_uses (e : Element) :
    (elementFlag e).Uses e.flagName?.toList fun flagOf => e.patternFlag? flagOf := by
  cases e with
  | literal | glossed => exact .pure none
  | setRef name => exact (flagFor_uses name).map fun flag => some (PatternFlag.mk flag false)
  | optional child =>
    cases child with
    | setRef name => exact (flagFor_uses name).map fun flag => some (PatternFlag.mk flag true)
    | literal | glossed | optional => exact .pure none

theorem alternativePattern_uses (alternative : Alternative) :
    (alternativePattern alternative).Uses (alternative.filterMap Element.flagName?) fun flagOf =>
      alternative.filterMap (Element.patternFlag? flagOf) := by
  induction alternative with
  | nil => exact .pure []
  | cons e rest ih =>
    simp only [List.filterMap_eq_flatMap_toList, List.flatMap_cons] at ih ⊢
    exact (elementFlag_uses e).bind fun flag => ih.map (flag.toList ++ ·)

theorem filter_cons_isEmpty {α : Type} (a : α) (isEmpty : α → Bool) (rest : List α) :
    (a :: rest).filter (!isEmpty ·) =
      if isEmpty a then rest.filter (!isEmpty ·) else a :: rest.filter (!isEmpty ·) := by
  rw [List.filter_cons]
  cases isEmpty a <;> rfl

theorem alternativePatterns_uses (alternatives : List Alternative) :
    (alternativePatterns alternatives).Uses
      (alternatives.flatMap (List.filterMap Element.flagName?)) fun flagOf =>
        (alternatives.map (List.filterMap (Element.patternFlag? flagOf))).filter (!·.isEmpty) := by
  induction alternatives with
  | nil => exact .pure []
  | cons alternative rest ih =>
    have h := (alternativePattern_uses alternative).bind fun pattern =>
      ih.map fun more => if pattern.isEmpty then more else pattern :: more
    simp only [List.map_cons, filter_cons_isEmpty _ List.isEmpty]
    exact h

theorem rulePatterns_uses (rules : List Rule) :
    (rulePatterns rules).Uses (rules.flatMap Rule.flagNames) fun flagOf =>
      (rules.map fun rule => (rule, rule.patterns flagOf)).filter (!·.2.isEmpty) := by
  induction rules with
  | nil => exact .pure []
  | cons rule rest ih =>
    have h := (alternativePatterns_uses rule.alternatives).bind fun patterns =>
      ih.map fun more => if patterns.isEmpty then more else (rule, patterns) :: more
    simp only [List.map_cons, filter_cons_isEmpty _ fun block : Rule × List (List PatternFlag) =>
      block.2.isEmpty]
    exact h

/-- The names of a grammar are used set by set, and then rule by rule. -/
theorem affixLines_uses (g : Grammar) (language : Text) :
    (g.affixLines language).Uses g.flagNames fun flagOf => g.affixLinesBy flagOf language := by
  have h := (setLines_uses g.sets.values).bind fun lines =>
    (rulePatterns_uses g.allRules).map fun blocks =>
      [.encoding, .language language, .blank] ++ lines ++ compoundLines blocks
  exact h

theorem affixText_uses (g : Grammar) (language : Text) :
    (g.affixText language).Uses g.flagNames fun flagOf =>
      renderLines (g.affixLinesBy flagOf language) :=
  (affixLines_uses g language).map renderLines

end Uses

end Morphotactics
