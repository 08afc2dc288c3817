import Mathlib
import Morphotactics.Exporter
import Morphotactics.Proofs.Affix.Flagging

/-! The flags of an exporter over all of its calls. Whatever it is asked for, and whether it can
answer or not, the names it comes across are given the flags in order of first use, and keep
them. -/
namespace Morphotactics

/-- The names that a call uses, in their order. -/
def ExportCall.names (g : Grammar) : ExportCall → List Text
  | .flag name => [name]
  | .text | .save _ => g.flagNames

/-- The text is what is written of a grammar when its sets have these flags. -/
def Grammar.WrittenWith (g : Grammar) (language : Text) (flags : FlagTable) (text : Text) : Prop :=
  ∃ flagOf : Text → Char, (∀ name ∈ g.flagNames, flags.find? name = some (flagOf name)) ∧
    text = renderLines (g.affixLinesBy flagOf language)

theorem flagAlphabet_nodup : flagAlphabet.Nodup := by
  decide

namespace Exporter

variable {e : Exporter} {folder : Folder} {used names : List Text} {name : Text} {flag : Char}

/-- The names used have the flags in order of first use, as far as there are flags. -/
structure Allots (e : Exporter) (used : List Text) : Prop where
  size_le : e.flags.size ≤ 62
  names : e.flags.keys = used.eraseDups.take 62
  flags : e.flags.values = flagAlphabet.take e.flags.size
  distinct : ∀ first second flag, e.flags.find? first = some flag →
    e.flags.find? second = some flag → first = second

/-- The exporter keeps to the flags it gave out, and gives the next one to a name without. -/
structure Honours (e : Exporter) (folder : Folder) : Prop where
  /-- A call leaves the flags as they are or adds some, also if it fails. -/
  keeps : ∀ call, e.flags.entries <+: (e.answer folder call).2.1.flags.entries
  known : ∀ name flag, e.flags.find? name = some flag →
    e.answer folder (.flag name) = (.ok (.flag flag), e, folder)
  answered : ∀ name answer, (e.answer folder (.flag name)).1 = .ok answer →
    ∃ flag, answer = .flag flag ∧
      (e.answer folder (.flag name)).2.1.flags.find? name = some flag
  exhausted : ∀ name, (∃ error, (e.answer folder (.flag name)).1 = .error error) ↔
    e.flags.find? name = none ∧ e.flags.size = 62
  refused : ∀ name error, (e.answer folder (.flag name)).1 = .error error →
    e.answer folder (.flag name) = (.error (.flags ⟨name⟩), e, folder)
  written : ∀ answer, (e.answer folder .text).1 = .ok answer →
    ∃ text, answer = .text text ∧
      e.grammar.WrittenWith e.language (e.answer folder .text).2.1.flags text
  saved : ∀ path answer, (e.answer folder (.save path)).1 = .ok answer →
    ∃ text, folder.update path (fun _ => encodeUtf8 text) =
        .ok (e.answer folder (.save path)).2.2 ∧
      e.grammar.WrittenWith e.language (e.answer folder (.save path)).2.1.flags text

section Calls

theorem ask_of_uses {α : Type} {action : Flagging α} {value : (Text → Char) → α}
    (h : action.Uses names value) (hused : e.flags = .ofNames used) {flagOf : Text → Char}
    (hagrees : (FlagTable.ofNames (used ++ names)).Agrees flagOf) :
    e.ask action =
      (match (FlagTable.ofNames (used ++ names)).lacking? names with
        | none => .ok (value flagOf)
        | some name => .error (.flags ⟨name⟩),
      { e with flags := .ofNames (used ++ names) }) := by
  rw [ask, hused, h used flagOf hagrees]
  cases (FlagTable.ofNames (used ++ names)).lacking? names <;> rfl

/-- The text of a grammar is complete if every name finds a flag. -/
theorem ask_affixText_of_enough (hused : e.flags = .ofNames used)
    (henough : (FlagTable.ofNames (used ++ e.grammar.flagNames)).lacking? e.grammar.flagNames =
      none) :
    ∃ text, e.ask (e.grammar.affixText e.language) =
        (.ok text, { e with flags := .ofNames (used ++ e.grammar.flagNames) }) ∧
      e.grammar.WrittenWith e.language (.ofNames (used ++ e.grammar.flagNames)) text := by
  obtain ⟨flagOf, hagrees, hflags⟩ :=
    (FlagTable.ofNames (used ++ e.grammar.flagNames)).exists_agrees
  have hask := ask_of_uses (affixText_uses e.grammar e.language) hused hagrees
  rw [henough] at hask
  refine ⟨_, hask, flagOf, fun name hname => ?_, rfl⟩
  exact hflags name (FlagTable.lacking?_eq_none_iff.mp henough name hname)

theorem ask_affixText (hused : e.flags = .ofNames used) :
    (∃ text, e.ask (e.grammar.affixText e.language) =
        (.ok text, { e with flags := .ofNames (used ++ e.grammar.flagNames) }) ∧
      e.grammar.WrittenWith e.language (.ofNames (used ++ e.grammar.flagNames)) text) ∨
    ∃ error, e.ask (e.grammar.affixText e.language) =
        (.error error, { e with flags := .ofNames (used ++ e.grammar.flagNames) }) := by
  cases hlacking : (FlagTable.ofNames (used ++ e.grammar.flagNames)).lacking?
    e.grammar.flagNames with
  | none => exact .inl (ask_affixText_of_enough hused hlacking)
  | some name =>
    obtain ⟨flagOf, hagrees, -⟩ :=
      (FlagTable.ofNames (used ++ e.grammar.flagNames)).exists_agrees
    have hask := ask_of_uses (affixText_uses e.grammar e.language) hused hagrees
    rw [hlacking] at hask
    exact .inr ⟨_, hask⟩

theorem answer_text_of_enough (hused : e.flags = .ofNames used)
    (henough : (used ++ e.grammar.flagNames).eraseDups.length ≤ 62) (folder : Folder) :
    ∃ text, e.answer folder .text =
        (.ok (.text text), { e with flags := .ofNames (used ++ e.grammar.flagNames) }, folder) ∧
      e.grammar.WrittenWith e.language (.ofNames (used ++ e.grammar.flagNames)) text := by
  obtain ⟨text, hask, hwritten⟩ :=
    ask_affixText_of_enough hused (FlagTable.lacking?_ofNames_of_enough henough)
  refine ⟨text, ?_, hwritten⟩
  rw [answer, hask]
  rfl

theorem answer_flag (hused : e.flags = .ofNames used) (name : Text) (folder : Folder) :
    e.answer folder (.flag name) =
      (match (FlagTable.ofNames (used ++ [name])).find? name with
        | some flag => .ok (.flag flag)
        | none => .error (.flags ⟨name⟩),
      { e with flags := .ofNames (used ++ [name]) }, folder) := by
  obtain ⟨flagOf, hagrees, -⟩ := (FlagTable.ofNames (used ++ [name])).exists_agrees
  rw [answer, ask_of_uses (Flagging.flagFor_uses name) hused hagrees]
  cases hfind : (FlagTable.ofNames (used ++ [name])).find? name with
  | some flag =>
    rw [FlagTable.lacking?_of_mem (Table.mem_keys_iff.mpr ⟨flag, hfind⟩)]
    simp only [hagrees name flag hfind]
    rfl
  | none =>
    rw [FlagTable.lacking?_of_not_mem (Table.find?_eq_none_iff.mp hfind)]
    rfl

/-- A call gives flags to the names it uses, also if it fails. -/
theorem answer_exporter (hused : e.flags = .ofNames used) (folder : Folder) (call : ExportCall) :
    (e.answer folder call).2.1 =
      { e with flags := .ofNames (used ++ call.names e.grammar) } := by
  cases call with
  | flag name =>
    rw [answer_flag hused]
    rfl
  | text =>
    obtain ⟨text, hask, -⟩ | ⟨error, hask⟩ := ask_affixText hused
    all_goals rw [answer, hask]; rfl
  | save path =>
    obtain ⟨text, hask, -⟩ | ⟨error, hask⟩ := ask_affixText hused
    · rw [answer, hask]
      dsimp only
      cases folder.update path fun _ => encodeUtf8 text <;> rfl
    · rw [answer, hask]
      rfl

/-- The flags after calls depend just on the names that these used. -/
theorem answerAll_exporter (hused : e.flags = .ofNames used) (folder : Folder)
    (calls : List ExportCall) :
    (e.answerAll folder calls).1 =
      { e with flags := .ofNames (used ++ calls.flatMap (·.names e.grammar)) } := by
  induction calls generalizing e folder used with
  | nil =>
    rw [List.flatMap_nil, List.append_nil, ← hused]
    rfl
  | cons call rest ih =>
    have hstep := answer_exporter hused folder call
    rw [answerAll, ih (congrArg Exporter.flags hstep), hstep, List.flatMap_cons, List.append_assoc]

end Calls

section Honouring

theorem answer_flag_of_find? (hused : e.flags = .ofNames used)
    (hflag : e.flags.find? name = some flag) :
    e.answer folder (.flag name) = (.ok (.flag flag), e, folder) := by
  have hname : name ∈ FlagTable.allotted used := by
    rw [← FlagTable.keys_ofNames, ← hused]
    exact Table.mem_keys_iff.mpr ⟨flag, hflag⟩
  have hsame := FlagTable.ofNames_eq (FlagTable.allotted_append_of_mem hname)
  rw [answer_flag hused, hsame, ← hused, hflag]

theorem answer_flag_of_full (hused : e.flags = .ofNames used) (hname : e.flags.find? name = none)
    (hfull : e.flags.size = flagAlphabet.length) :
    e.answer folder (.flag name) = (.error (.flags ⟨name⟩), e, folder) := by
  rw [hused, FlagTable.size_ofNames] at hfull
  have hsame := FlagTable.ofNames_eq (FlagTable.allotted_append_of_full hfull [name])
  rw [answer_flag hused, hsame, ← hused, hname]

/-- A name is refused exactly if it has no flag and none is left. -/
theorem answer_flag_error_iff (hused : e.flags = .ofNames used) :
    (∃ error, (e.answer folder (.flag name)).1 = .error error) ↔
      e.flags.find? name = none ∧ e.flags.size = flagAlphabet.length := by
  constructor
  · rintro ⟨error, herror⟩
    rw [answer_flag hused] at herror
    cases hfind : (FlagTable.ofNames (used ++ [name])).find? name with
    | some flag =>
      rw [hfind] at herror
      cases herror
    | none => exact hused ▸ FlagTable.full_of_find?_eq_none hfind
  · rintro ⟨hname, hfull⟩
    exact ⟨_, congrArg Prod.fst (answer_flag_of_full hused hname hfull)⟩

theorem honours_of_ofNames (hused : e.flags = .ofNames used) (folder : Folder) :
    e.Honours folder where
  keeps call := by
    rw [answer_exporter hused, hused]
    exact FlagTable.ofNames_extends _ _
  known _ _ := answer_flag_of_find? hused
  answered name answer hanswer := by
    rw [answer_flag hused] at hanswer ⊢
    dsimp only at hanswer ⊢
    cases hfind : (FlagTable.ofNames (used ++ [name])).find? name with
    | some flag =>
      rw [hfind] at hanswer
      exact ⟨flag, (Except.ok.inj hanswer).symm, rfl⟩
    | none =>
      rw [hfind] at hanswer
      cases hanswer
  exhausted name := answer_flag_error_iff hused
  refused name error herror := by
    obtain ⟨hname, hfull⟩ := (answer_flag_error_iff hused).mp ⟨error, herror⟩
    exact answer_flag_of_full hused hname hfull
  written answer hanswer := by
    obtain ⟨text, hask, hwritten⟩ | ⟨error, hask⟩ := ask_affixText hused
    · rw [Exporter.answer, hask] at hanswer ⊢
      exact ⟨text, (Except.ok.inj hanswer).symm, hwritten⟩
    · rw [Exporter.answer, hask] at hanswer
      cases hanswer
  saved path answer hanswer := by
    obtain ⟨text, hask, hwritten⟩ | ⟨error, hask⟩ := ask_affixText hused
    · rw [Exporter.answer, hask] at hanswer ⊢
      dsimp only at hanswer ⊢
      cases hupdate : folder.update path fun _ => encodeUtf8 text with
      | ok folder => exact ⟨text, hupdate, hwritten⟩
      | error error =>
        rw [hupdate] at hanswer
        cases hanswer
    · rw [Exporter.answer, hask] at hanswer
      cases hanswer

theorem allots_of_ofNames (hused : e.flags = .ofNames used) : e.Allots used := by
  have hvalues := FlagTable.values_ofNames used
  have hnodup : e.flags.values.Nodup := by
    rw [hused, hvalues]
    exact flagAlphabet_nodup.sublist (List.take_sublist _ _)
  refine ⟨?_, ?_, hused ▸ hvalues, fun first second flag hfirst hsecond => ?_⟩
  · rw [hused, FlagTable.size_ofNames]
    exact FlagTable.allotted_length_le used
  · rw [hused]
    exact FlagTable.keys_ofNames used
  · have hsame := List.inj_on_of_nodup_map hnodup (Table.find?_eq_some_iff.mp hfirst)
      (Table.find?_eq_some_iff.mp hsecond) rfl
    exact congrArg Prod.fst hsame

end Honouring

/-- After any calls, the names these used have the flags in order of first use; the exporter honours
these flags in its next call, and still has them after any further calls. -/
theorem answerAll_allots (g : Grammar) (language : Text) (folder : Folder)
    (calls later : List ExportCall) :
    let (e, here) := (Exporter.mk g language .empty).answerAll folder calls
    e.Allots (calls.flatMap (·.names g)) ∧ e.Honours here ∧
      e.flags.entries <+: (e.answerAll here later).1.flags.entries := by
  have hcalls := answerAll_exporter (e := ⟨g, language, .empty⟩) FlagTable.ofNames_nil folder calls
  have hused := congrArg Exporter.flags hcalls
  refine ⟨allots_of_ofNames hused, honours_of_ofNames hused _, ?_⟩
  rw [answerAll_exporter hused, hused]
  exact FlagTable.ofNames_extends _ _

end Exporter
end Morphotactics
