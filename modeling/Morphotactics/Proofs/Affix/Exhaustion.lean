import Mathlib
import Morphotactics.Proofs.Affix.Exporting

/-! When the flags run out. An affix file is written exactly if there are flags for all names that
have one already or are used in it; otherwise the first name that finds none is reported. -/
namespace Morphotactics

namespace FlagTable

variable {used names : List Text} {name : Text}

theorem nodup_allotted (used : List Text) : (allotted used).Nodup :=
  (Table.nodup_eraseDups used).sublist (List.take_sublist _ _)

theorem allotted_allotted (used : List Text) : allotted (allotted used) = allotted used := by
  have hsame := Table.eraseDups_of_nodup (nodup_allotted used)
  have henough : (allotted used).eraseDups.length ≤ flagAlphabet.length := by
    rw [hsame]
    exact allotted_length_le used
  rw [allotted_of_enough henough, hsame]

/-- Only names that found a flag matter for those that come later. -/
theorem ofNames_keys (used : List Text) : ofNames (ofNames used).keys = ofNames used := by
  rw [keys_ofNames]
  exact ofNames_eq (allotted_allotted used)

/-- No more names have flags than there are flags. -/
theorem enough_of_subset (h : names ⊆ allotted used) :
    names.eraseDups.length ≤ flagAlphabet.length := by
  have hsubset : names.eraseDups ⊆ allotted used := fun name hname =>
    h (List.mem_eraseDups.mp hname)
  exact ((Table.nodup_eraseDups names).subperm hsubset).length_le.trans (allotted_length_le used)

theorem enough_keys (used : List Text) :
    (ofNames used).keys.eraseDups.length ≤ flagAlphabet.length := by
  rw [keys_ofNames]
  exact enough_of_subset (List.Subset.refl _)

theorem subset_allotted_append (hused : used.eraseDups.length ≤ flagAlphabet.length)
    (names : List Text) : used ⊆ allotted (used ++ names) := by
  intro name hname
  refine (allotted_extends used names).subset ?_
  rw [allotted_of_enough hused]
  exact List.mem_eraseDups.mpr hname

/-- Every name finds a flag exactly if there are enough of them. -/
theorem lacking?_ofNames_eq_none_iff (hused : used.eraseDups.length ≤ flagAlphabet.length) :
    (ofNames (used ++ names)).lacking? names = none ↔
      (used ++ names).eraseDups.length ≤ flagAlphabet.length := by
  refine ⟨fun h => ?_, lacking?_ofNames_of_enough⟩
  rw [lacking?_eq_none_iff, keys_ofNames] at h
  have hflagged : used ++ names ⊆ allotted (used ++ names) :=
    List.append_subset.mpr ⟨subset_allotted_append hused names, h⟩
  exact enough_of_subset hflagged

theorem size_of_lacking (h : (ofNames (used ++ names)).lacking? names = some name) :
    (ofNames (used ++ names)).size = flagAlphabet.length := by
  have hlacking := List.find?_some h
  rw [decide_eq_true_iff, keys_ofNames] at hlacking
  rw [size_ofNames]
  have hname : name ∈ names := List.mem_of_find?_eq_some h
  exact length_allotted_of_lacking (List.mem_append_right used hname) hlacking

/-- The first name that finds no flag comes where all flags have been given to other names. -/
theorem full_before_lacking (hused : used.eraseDups.length ≤ flagAlphabet.length)
    (h : (ofNames (used ++ names)).lacking? names = some name) :
    ∃ before after, names = before ++ name :: after ∧ name ∉ used ++ before ∧
      (used ++ before).eraseDups.length = flagAlphabet.length := by
  obtain ⟨hlacking, before, after, rfl, hbefore⟩ := List.find?_eq_some_iff_append.mp h
  rw [keys_ofNames, decide_eq_true_iff] at hlacking
  have hflagged : used ++ before ⊆ allotted (used ++ (before ++ name :: after)) := by
    refine List.append_subset.mpr ⟨subset_allotted_append hused _, fun other hother => ?_⟩
    simpa [keys_ofNames] using hbefore other hother
  -- With a flag to spare after the earlier names, this one would have been given it.
  have hfull : flagAlphabet.length ≤ (used ++ before).eraseDups.length := by
    by_contra hroom
    have henough : (used ++ before ++ [name]).eraseDups.length ≤ flagAlphabet.length := by
      have hstep := Table.eraseDups_append_singleton (used ++ before) name
      have hlength := congrArg List.length hstep
      split_ifs at hlength
      · omega
      · rw [List.length_append, List.length_singleton] at hlength
        omega
    have hgiven := subset_allotted_append henough after
      (List.mem_append_right (used ++ before) (List.mem_singleton_self name))
    rw [List.append_assoc, List.append_assoc, List.singleton_append] at hgiven
    exact hlacking hgiven
  exact ⟨before, after, rfl, fun hname => hlacking (hflagged hname),
    (enough_of_subset hflagged).antisymm hfull⟩

/-- Names that are all used already change nothing. -/
theorem ofNames_append_of_subset (h : names ⊆ used) : ofNames (used ++ names) = ofNames used := by
  have hnothing : names.eraseDups.filter (· ∉ used.eraseDups) = [] := by
    refine List.filter_eq_nil_iff.mpr fun name hname => ?_
    simpa using h (List.mem_eraseDups.mp hname)
  apply ofNames_eq
  rw [allotted, Table.eraseDups_append_filter, hnothing, List.append_nil, allotted]

/-- New names stand behind the others, in the order in which they first come up. -/
theorem keys_ofNames_append {flags : FlagTable}
    (henough : (flags.keys ++ names).eraseDups.length ≤ flagAlphabet.length) :
    (ofNames (flags.keys ++ names)).keys =
      flags.keys ++ names.eraseDups.filter (!flags.contains ·) := by
  have hfresh : ∀ name, (!flags.contains name) = decide (name ∉ flags.keys) := fun name => by
    rw [Table.contains, List.elem_eq_mem, decide_not]
  have hkeys : flags.keys.eraseDups = flags.keys := Table.eraseDups_of_nodup flags.nodup
  rw [keys_ofNames, allotted_of_enough henough, Table.eraseDups_append_filter, hkeys]
  simp only [hfresh]

end FlagTable

namespace Exporter

variable {e : Exporter} {used : List Text}

/-- The exporter writes its text. The names that are new have flags behind the others, in the order
in which they first come up, and another request gives the same text and no more flags. -/
def Completes (e : Exporter) (folder : Folder) : Prop :=
  ∃ text after, e.answer folder .text = (.ok (.text text), after, folder) ∧
    after.flags.keys = e.flags.keys ++ e.grammar.flagNames.eraseDups.filter (!e.flags.contains ·) ∧
      e.flags.entries <+: after.flags.entries ∧
        after.answer folder .text = (.ok (.text text), after, folder)

/-- The exporter reports the first name that finds no flag. All flags are given out then, to the
names with a flag and to those that come before this one. -/
def Exhausts (e : Exporter) (folder : Folder) : Prop :=
  ∃ before name rest after, e.grammar.flagNames = before ++ name :: rest ∧
    name ∉ e.flags.keys ++ before ∧ (e.flags.keys ++ before).eraseDups.length = 62 ∧
      e.answer folder .text = (.error (.flags ⟨name⟩), after, folder) ∧
        e.flags.entries <+: after.flags.entries ∧ after.flags.size = 62

theorem answer_text (hused : e.flags = .ofNames used) {flagOf : Text → Char}
    (hagrees : (FlagTable.ofNames (used ++ e.grammar.flagNames)).Agrees flagOf) (folder : Folder) :
    e.answer folder .text =
      (match (FlagTable.ofNames (used ++ e.grammar.flagNames)).lacking? e.grammar.flagNames with
        | none => .ok (.text (renderLines (e.grammar.affixLinesBy flagOf e.language)))
        | some name => .error (.flags ⟨name⟩),
      { e with flags := .ofNames (used ++ e.grammar.flagNames) }, folder) := by
  rw [answer, ask_of_uses (affixText_uses e.grammar e.language) hused hagrees]
  cases (FlagTable.ofNames (used ++ e.grammar.flagNames)).lacking? e.grammar.flagNames <;> rfl

/-- A text that has been given is given again, and no flag is given out for it any more. -/
theorem answer_text_again (hused : e.flags = .ofNames used)
    (henough : (used ++ e.grammar.flagNames).eraseDups.length ≤ flagAlphabet.length)
    (folder : Folder) :
    ∃ text, e.answer folder .text =
        (.ok (.text text), { e with flags := .ofNames (used ++ e.grammar.flagNames) }, folder) ∧
      Exporter.answer { e with flags := .ofNames (used ++ e.grammar.flagNames) } folder .text =
        (.ok (.text text), { e with flags := .ofNames (used ++ e.grammar.flagNames) }, folder) := by
  obtain ⟨flagOf, hagrees, -⟩ :=
    (FlagTable.ofNames (used ++ e.grammar.flagNames)).exists_agrees
  have hsame : FlagTable.ofNames (used ++ e.grammar.flagNames ++ e.grammar.flagNames) =
      FlagTable.ofNames (used ++ e.grammar.flagNames) :=
    FlagTable.ofNames_append_of_subset (List.subset_append_right _ _)
  have hfirst := answer_text hused hagrees folder
  have hsecond := answer_text (e := { e with flags := .ofNames (used ++ e.grammar.flagNames) }) rfl
    (hsame ▸ hagrees) folder
  dsimp only at hsecond
  rw [FlagTable.lacking?_ofNames_of_enough henough] at hfirst
  rw [hsame, FlagTable.lacking?_ofNames_of_enough henough] at hsecond
  exact ⟨_, hfirst, hsecond⟩

theorem completes_of_enough (hkeys : e.flags = .ofNames e.flags.keys)
    (henough : (e.flags.keys ++ e.grammar.flagNames).eraseDups.length ≤ flagAlphabet.length)
    (folder : Folder) : e.Completes folder := by
  obtain ⟨text, hfirst, hsecond⟩ := answer_text_again hkeys henough folder
  refine ⟨text, _, hfirst, FlagTable.keys_ofNames_append henough, ?_, hsecond⟩
  conv_lhs => rw [hkeys]
  exact FlagTable.ofNames_extends _ _

theorem exhausts_of_many (hkeys : e.flags = .ofNames e.flags.keys)
    (hmany : flagAlphabet.length < (e.flags.keys ++ e.grammar.flagNames).eraseDups.length)
    (folder : Folder) : e.Exhausts folder := by
  have hroom : e.flags.keys.eraseDups.length ≤ flagAlphabet.length := by
    rw [hkeys]
    exact FlagTable.enough_keys _
  obtain ⟨flagOf, hagrees, -⟩ :=
    (FlagTable.ofNames (e.flags.keys ++ e.grammar.flagNames)).exists_agrees
  have hanswer := answer_text hkeys hagrees folder
  cases hlacking : (FlagTable.ofNames (e.flags.keys ++ e.grammar.flagNames)).lacking?
    e.grammar.flagNames with
  | none =>
    have henough := (FlagTable.lacking?_ofNames_eq_none_iff hroom).mp hlacking
    omega
  | some name =>
    obtain ⟨before, rest, hnames, hname, hfull⟩ := FlagTable.full_before_lacking hroom hlacking
    rw [hlacking] at hanswer
    refine ⟨before, name, rest, _, hnames, hname, hfull, hanswer, ?_,
      FlagTable.size_of_lacking hlacking⟩
    conv_lhs => rw [hkeys]
    exact FlagTable.ofNames_extends _ _

/-- After any calls, the text of a grammar is written exactly if there are flags for the names that
have one and those that it uses; otherwise the first name that finds none is reported. -/
theorem answerAll_text_outcome (g : Grammar) (language : Text) (folder : Folder)
    (calls : List ExportCall) :
    let (e, here) := (Exporter.mk g language .empty).answerAll folder calls
    if (e.flags.keys ++ g.flagNames).eraseDups.length ≤ 62 then e.Completes here
    else e.Exhausts here := by
  have hcalls := answerAll_exporter (e := ⟨g, language, .empty⟩) FlagTable.ofNames_nil folder calls
  generalize (Exporter.mk g language .empty).answerAll folder calls = asked at hcalls ⊢
  obtain ⟨e, here⟩ := asked
  obtain rfl : e = _ := hcalls
  dsimp only
  have hkeys := (FlagTable.ofNames_keys (calls.flatMap (·.names g))).symm
  split_ifs with henough
  · exact completes_of_enough hkeys henough here
  · exact exhausts_of_many hkeys (Nat.lt_of_not_le henough) here

end Exporter
end Morphotactics
