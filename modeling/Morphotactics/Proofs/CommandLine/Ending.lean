import Morphotactics.Proofs.CommandLine.Answering
import Morphotactics.Proofs.CommandLine.Opening
import Morphotactics.Proofs.Segmentation.Ending

/-! How runs of the command line end, and which failures no report is made of. -/
namespace Morphotactics

/-- The number of segmentations that a session stops at. -/
def Session.budget (s : Session) : Except LimitFault (Option Nat) :=
  s.searchLimit >>= budgetOf

section Searches

variable {s : Session} {g : Grammar} {word : Text}

theorem analyzeAll_limit_iff {limit : Option Int} {fault : LimitFault} :
    analyzeAll g limit word = .error (.limit fault) ↔ budgetOf limit = .error fault := by
  have hsegmentations : segmentations g limit word = .error (.limit fault) ↔
      budgetOf limit = .error fault := by
    unfold segmentations
    split
    · rename_i found hbudget
      rw [hbudget]
      simp
    all_goals
      rename_i hbudget
      rw [hbudget]
      split <;> simp
  rw [analyzeAll, bind_eq_error_iff, ← hsegmentations]
  refine ⟨fun h => ?_, .inl⟩
  obtain h | ⟨_, _, h⟩ := h
  · exact h
  · cases h

/-- A search fails at its limit before it begins. -/
theorem Session.searched_limit_iff {fault : LimitFault} :
    s.searched g word = .error (.analysis (.search (.limit fault))) ↔ s.budget = .error fault := by
  rw [searched, budget]
  cases s.searchLimit with
  | error found =>
    show Except.error (Failure.analysis (.search (.limit found))) = _ ↔ Except.error found = _
    simp
  | ok limit =>
    show (analyzeAll g limit word).mapError _ = _ ↔ budgetOf limit = _
    rw [mapError_eq_error_iff, ← @analyzeAll_limit_iff g word]
    simp

theorem Session.searched_error {e : Failure} (h : s.searched g word = .error e) :
    ∃ error, e = .analysis (.search error) := by
  obtain h | ⟨limit, -, h⟩ := bind_eq_error_iff.mp h
  all_goals
    obtain ⟨error, -, rfl⟩ := mapError_eq_error_iff.mp h
    exact ⟨_, rfl⟩

end Searches

namespace CommandLine

/-- How a request comes out with what has been opened for it. -/
def Request.outcome (request : Request) :
    Option (Except LoadError (Session × Grammar)) → Except Failure Unit
  | none => return ()
  | some opened => do
    let (s, g) ← opened.mapError .load
    answered request (limited request s) g

/-- The words of which a request wants the segmentations. -/
def Request.searches (request : Request) (word : Text) : Prop :=
  given request.analyze = some word ∨ given request.rules = some word

/-- What a request comes out with, and no report is made of: a limit that is out of range, or a
number in a pattern that has too many digits. -/
inductive Request.Escapes (request : Request)
    (opened : Option (Except LoadError (Session × Grammar))) : Prop
  | limit {s : Session} {g : Grammar} {word : Text} {fault : LimitFault}
      (loaded : opened = some (.ok (s, g))) (asked : request.searches word)
      (out : (limited request s).budget = .error fault)
  | search {error : Pattern.Invalid} {fault : NumeralFault} (numeral : error.fault = .numeral fault)
      (failed : request.outcome opened = .error (.analysis (.search (.pattern error))))
  | formation {error : Pattern.Invalid} {fault : NumeralFault}
      (numeral : error.fault = .numeral fault)
      (failed : request.outcome opened = .error (.formation (.pattern error)))

section Failures

variable {request : Request} {s : Session} {g : Grammar} {e : Failure}

/-- What the parts of an answer may fail with. -/
theorem answered_error (h : answered request s g = .error e) :
    (∃ word, request.searches word ∧ s.searched g word = .error e) ∨
      (∃ name, e = .analysis (.unknown name)) ∨ (∃ error, e = .formation error) ∨
        ∃ error, e = .flags error := by
  obtain hanalysis | ⟨_, -, h⟩ := bind_eq_error_iff.mp h
  · rw [analysisOutcome] at hanalysis
    split at hanalysis
    · rename_i word hword
      obtain h | ⟨_, _, h⟩ := bind_eq_error_iff.mp hanalysis
      · exact .inl ⟨word, .inl hword, h⟩
      · cases h
    · cases hanalysis
  obtain hrules | ⟨_, -, h⟩ := bind_eq_error_iff.mp h
  · rw [rulesOutcome] at hrules
    split at hrules
    · rename_i word hword
      obtain h | ⟨_, _, h⟩ := bind_eq_error_iff.mp hrules
      · exact .inl ⟨word, .inr hword, h⟩
      obtain h | ⟨_, _, h⟩ := bind_eq_error_iff.mp h
      · obtain ⟨name, -, rfl⟩ := mapError_eq_error_iff.mp h
        exact .inr (.inl ⟨name, rfl⟩)
      · cases h
    · cases hrules
  obtain hforms | ⟨_, -, h⟩ := bind_eq_error_iff.mp h
  · rw [formsOutcome] at hforms
    split at hforms
    · obtain h | ⟨_, _, h⟩ := bind_eq_error_iff.mp hforms
      · obtain ⟨error, -, rfl⟩ := mapError_eq_error_iff.mp h
        exact .inr (.inr (.inl ⟨error, rfl⟩))
      · cases h
    · cases hforms
  · rw [affixOutcome] at h
    split at h
    · obtain h | ⟨_, _, h⟩ := bind_eq_error_iff.mp h
      · obtain ⟨error, -, rfl⟩ := mapError_eq_error_iff.mp h
        exact .inr (.inr (.inr ⟨error, rfl⟩))
      · cases h
    · cases h

/-- A limit that is out of range is the failure of the first search. -/
theorem answered_limit {word : Text} {fault : LimitFault} (hasked : request.searches word)
    (hout : s.budget = .error fault) :
    answered request s g = .error (.analysis (.search (.limit fault))) := by
  have hsearched : ∀ word, s.searched g word = .error (.analysis (.search (.limit fault))) :=
    fun _ => Session.searched_limit_iff.mpr hout
  cases hanalyze : given request.analyze with
  | some word =>
    refine bind_eq_error_iff.mpr (.inl ?_)
    rw [analysisOutcome, hanalyze]
    exact bind_eq_error_iff.mpr (.inl (hsearched word))
  | none =>
    have hrules : given request.rules = some word := by
      simpa [Request.searches, hanalyze] using hasked
    refine bind_eq_error_iff.mpr (.inr ⟨(), by rw [analysisOutcome, hanalyze]; rfl, ?_⟩)
    refine bind_eq_error_iff.mpr (.inl ?_)
    rw [rulesOutcome, hrules]
    exact bind_eq_error_iff.mpr (.inl (hsearched word))

/-- A report is made of a failure, whether it comes early or late. -/
def isHandled (e : Failure) : Bool :=
  isLoadFailure e || isUseFailure e

theorem isReported_eq_false_iff {error : Pattern.Invalid} :
    isReported error = false ↔ ∃ fault, error.fault = .numeral fault := by
  rw [isReported]
  split <;> simp_all

variable {opened : Option (Except LoadError (Session × Grammar))}

/-- Searches come to an end. -/
def Request.Ends (request : Request) (opened : Option (Except LoadError (Session × Grammar))) :
    Prop :=
  ∀ s g word, opened = some (.ok (s, g)) → request.searches word →
    (limited request s).searched g word ≠ .error (.analysis (.search .endless))

theorem outcome_of_escapes (h : request.Escapes opened) :
    ∃ e, request.outcome opened = .error e ∧ isHandled e = false := by
  cases h with
  | limit loaded asked out =>
    rw [loaded]
    exact ⟨_, answered_limit asked out, rfl⟩
  | search numeral failed | formation numeral failed =>
    exact ⟨_, failed, isReported_eq_false_iff.mpr ⟨_, numeral⟩⟩

theorem escapes_of_outcome (hends : request.Ends opened)
    (h : request.outcome opened = .error e) (hunhandled : isHandled e = false) :
    request.Escapes opened := by
  obtain - | load_error | ⟨s, g⟩ := opened
  · cases h
  · obtain rfl := Except.error.inj h
    cases hunhandled
  · have hanswered : answered request (limited request s) g = .error e := h
    obtain ⟨word, hasked, hsearched⟩ | ⟨name, rfl⟩ | ⟨error, rfl⟩ | ⟨error, rfl⟩ :=
      answered_error hanswered
    · obtain ⟨error, rfl⟩ := Session.searched_error hsearched
      cases error with
      | limit fault => exact .limit rfl hasked (Session.searched_limit_iff.mp hsearched)
      | pattern error =>
        obtain ⟨fault, numeral⟩ := isReported_eq_false_iff.mp hunhandled
        exact .search numeral h
      | endless => exact absurd hsearched (hends s g word rfl hasked)
    · cases hunhandled
    · cases error with
      | unknown name => cases hunhandled
      | pattern error =>
        obtain ⟨fault, numeral⟩ := isReported_eq_false_iff.mp hunhandled
        exact .formation numeral h
    · cases hunhandled

end Failures

section Runs

variable {arguments : List Text} {request : Request} {w : Workbench} {e : Failure}
  {opened : Option (Except LoadError (Session × Grammar))}

theorem isLoadFailure_of_answered {s : Session} {g : Grammar}
    (h : answered request s g = .error e) : isLoadFailure e = false := by
  obtain ⟨word, -, hsearched⟩ | ⟨name, rfl⟩ | ⟨error, rfl⟩ | ⟨error, rfl⟩ := answered_error h
  · obtain ⟨error, rfl⟩ := Session.searched_error hsearched
    rfl
  all_goals rfl

/-- A summary is printed, and then the answer decides. -/
theorem work_run {s : Session} {g : Grammar} (hg : s.grammar = some g)
    (hfile : w.journal.file = none)
    (hwritable : ∀ file, given request.exportAffix = some file →
      w.folder.Writable (.ofText file)) :
    ∃ w', (do print ((← s.summary) ++ [[]]); answer request s : Run Unit).run.run w =
      (answered request s g, w') := by
  obtain ⟨lines, w₁, hsummary, hw₁⟩ := Session.summary_yields (w := w) hg
  obtain ⟨w₂, hprint, hw₂⟩ := Run.Yields.print (w := w₁) (lines ++ [[]])
  have hquiet := hw₁.trans hw₂
  have hresult := answer_result hg (hquiet.file hfile)
    fun file hgiven => hquiet.folder.symm ▸ hwritable file hgiven
  refine ⟨((answer request s).run.run w₂).2, ?_⟩
  rw [Run.run_bind_ok hsummary, Run.run_bind_ok hprint, ← hresult]
  rfl

/-- A request ends as its data say, and is not broken off before its end. -/
theorem runRequest_ends (hlog : given request.logFile = none) (hopens : Opens request w opened)
    (hwritable : ∀ file, given request.exportAffix = some file →
      w.folder.Writable (.ofText file)) :
    (request.outcome opened = .ok () → (runRequest request w).1.status? ≠ none) ∧
      ∀ e, request.outcome opened = .error e →
        ∃ w', runRequest request w = endAt isHandled e w' := by
  have hjournal : (journalOptions request).file = none := by rw [journalOptions, hlog]; rfl
  obtain ⟨w₁, hopen, hfolder, hblocks, hfile⟩ := w.openJournal_run hjournal
  obtain ⟨w₂, hsession, hquiet⟩ := openSession_yields (hopens.congr hfolder hblocks) hfile
  rw [runRequest, hopen]
  dsimp only
  obtain - | load_error | ⟨s, g⟩ := opened
  · rw [hsession]
    exact ⟨fun _ => Option.some_ne_none _, fun e h => nomatch h⟩
  · rw [hsession]
    refine ⟨fun h => (nomatch h), fun e h => ?_⟩
    obtain rfl := Except.error.inj h
    exact ⟨w₂, rfl⟩
  · have hsession : (openSession request).run.run w₁ = (.ok (.ok s), w₂) := hsession
    have hg : (limited request s).grammar = some g := by
      rw [limited]
      split <;> exact hopens.grammar
    obtain ⟨w₃, hwork⟩ := work_run hg (hquiet.file hfile)
      fun file hgiven => (hquiet.folder.trans hfolder).symm ▸ hwritable file hgiven
    have houtcome : request.outcome (some (.ok (s, g))) = answered request (limited request s) g :=
      rfl
    rw [hsession, houtcome]
    dsimp only
    rw [hwork]
    cases hanswered : answered request (limited request s) g with
    | ok => exact ⟨fun _ => Option.some_ne_none _, fun e h => nomatch h⟩
    | error e =>
      refine ⟨fun h => (nomatch h), fun e' h => ?_⟩
      obtain rfl := Except.error.inj h
      have hhandled : isHandled e = isUseFailure e := by
        rw [isHandled, isLoadFailure_of_answered hanswered, Bool.false_or]
      refine ⟨w₃, ?_⟩
      simp only [endAt, hhandled]

/-- A run in which every search ends is broken off exactly where a search is given a limit that is
out of range, or a pattern is met in which a number has too many digits. Any other failure ends it
with status 1 and with a message on the console. -/
theorem run_broken_iff (htask : Task.ofArguments arguments = .ok (.run request))
    (hlog : given request.logFile = none) (hopens : Opens request w opened)
    (hwritable : ∀ file, given request.exportAffix = some file →
      w.folder.Writable (.ofText file)) (hends : request.Ends opened) :
    ((run arguments w).1.status? = none ↔ request.Escapes opened) ∧
      ∀ e, request.outcome opened = .error e → ¬ request.Escapes opened →
        (run arguments w).1.status? = some 1 ∧ ∃ earlier, (run arguments w).2.console =
          earlier ++ "ERROR: ".toList ++ e.message ++ ['\n'] := by
  obtain ⟨hdone, hfailed⟩ := runRequest_ends hlog hopens hwritable
  have hrun : run arguments w = runRequest request w := by rw [run, htask]
  rw [hrun]
  refine ⟨⟨fun hbroken => ?_, fun hescapes => ?_⟩, fun e he hescapes => ?_⟩
  · cases houtcome : request.outcome opened with
    | ok => exact absurd hbroken (hdone houtcome)
    | error e =>
      obtain ⟨w', hend⟩ := hfailed e houtcome
      rw [hend, endAt] at hbroken
      split_ifs at hbroken with hhandled
      · cases hbroken
      · exact escapes_of_outcome hends houtcome (Bool.eq_false_iff.mpr hhandled)
  · obtain ⟨e, houtcome, hunhandled⟩ := outcome_of_escapes hescapes
    obtain ⟨w', hend⟩ := hfailed e houtcome
    rw [hend, endAt, hunhandled]
    rfl
  · have hhandled : isHandled e = true := by
      by_contra hunhandled
      exact hescapes (escapes_of_outcome hends he (Bool.eq_false_iff.mpr hunhandled))
    obtain ⟨w', hend⟩ := hfailed e he
    rw [hend, endAt, if_pos hhandled]
    refine ⟨rfl, w'.console, ?_⟩
    simp [Workbench.tell]

end Runs

namespace Plural

def text : Text :=
  "SUFFIX s \x7b lar: \"plural\" \x7d".toList

/-- A folder with one grammar, of one suffix. -/
def workbench : Workbench where
  folder := { files := [(.ofText "g.grammar".toList, encodeUtf8 text)] }
  journal := { stamp := ⟨"now".toList, "now".toList, "here".toList⟩ }

def grammar : Grammar :=
  .ofDeclarations 1 [.set ['s'] [] [⟨"lar".toList, "plural".toList, {}⟩]]

def session : Session where
  grammar := some grammar
  language := Configuration.defaultLanguage
  path := some (.ofText "g.grammar".toList)

theorem held : workbench.folder.HoldsText (.ofText "g.grammar".toList) text :=
  ⟨encodeUtf8 text, rfl, by cbv⟩

theorem declared : declarationsOf? 1 text =
    some [.set ['s'] [] [⟨"lar".toList, "plural".toList, {}⟩]] := by
  cbv

theorem loaded : workbench.loaded text = .ok grammar := by
  have hends : unifyLineEnds text = text := rfl
  rw [Workbench.loaded, hends]
  exact ofText_of_declarationsOf? declared 1

theorem opens {request : Request} (h : given request.grammar = some "g.grammar".toList) :
    Opens request workbench (some (.ok (session, grammar))) := by
  have hnamed := Opens.named h held
  rw [loaded] at hnamed
  exact hnamed

/-- The forms of a rule that is not there. -/
def lookup : Request where
  grammar := some "g.grammar".toList
  generate := some (['t'], "kitob".toList)

def lookupArguments : List Text :=
  ["--grammar".toList, "g.grammar".toList, "--generate".toList, ['t'], "kitob".toList]

theorem lookup_task : Task.ofArguments lookupArguments = .ok (.run lookup) := by
  decide +kernel

theorem lookup_outcome : lookup.outcome (some (.ok (session, grammar))) =
    .error (.formation (.unknown (.rule ['t']))) :=
  rfl

/-- A search with a limit below zero. -/
def bounded : Request where
  grammar := some "g.grammar".toList
  analyze := some "kitoblar".toList
  limit := some (-1)

def boundedArguments : List Text :=
  ["--grammar".toList, "g.grammar".toList, "--analyze".toList, "kitoblar".toList,
    "--limit".toList, "-1".toList]

theorem bounded_task : Task.ofArguments boundedArguments = .ok (.run bounded) := by
  decide +kernel

end Plural

/-- The name of a rule that is not there is reported. -/
theorem lookup_reported :
    Task.ofArguments Plural.lookupArguments = .ok (.run Plural.lookup) ∧
      Opens Plural.lookup Plural.workbench (some (.ok (Plural.session, Plural.grammar))) ∧
      (run Plural.lookupArguments Plural.workbench).1.status? = some 1 := by
  have hopens : Opens Plural.lookup Plural.workbench
      (some (.ok (Plural.session, Plural.grammar))) := Plural.opens rfl
  have hnone : ∀ word, ¬ Plural.lookup.searches word := by
    rintro word (h | h) <;> cases h
  have hescapes : ¬ Plural.lookup.Escapes (some (.ok (Plural.session, Plural.grammar))) := by
    intro h
    cases h with
    | limit _ asked => exact hnone _ asked
    | search _ failed | formation _ failed => cases Plural.lookup_outcome.symm.trans failed
  obtain ⟨-, hreported⟩ := run_broken_iff Plural.lookup_task rfl hopens
    (fun file h => nomatch h) (fun s g word _ hasked => absurd hasked (hnone word))
  exact ⟨Plural.lookup_task, hopens, (hreported _ Plural.lookup_outcome hescapes).1⟩

/-- A limit below zero breaks off a run on a grammar that is read without fault, and no search has
begun that might not end. -/
theorem negative_limit_broken :
    Plural.workbench.folder.HoldsText (.ofText "g.grammar".toList) Plural.text ∧
      Plural.grammar.Declared ∧
      analyzeAll Plural.grammar none "kitoblar".toList ≠ .error .endless ∧
      (run Plural.boundedArguments Plural.workbench).1.status? = none := by
  have hopens : Opens Plural.bounded Plural.workbench
      (some (.ok (Plural.session, Plural.grammar))) := Plural.opens rfl
  have hescapes : Plural.bounded.Escapes (some (.ok (Plural.session, Plural.grammar))) :=
    .limit rfl (.inl rfl) rfl
  refine ⟨Plural.held, Grammar.declared_of_declarationsOf? Plural.declared, ?_, ?_⟩
  · refine analyzeAll_ends_of_short_replacements (fun owned howned hreplaces => ?_) _
    obtain rfl := List.mem_singleton.mp howned
    cases hreplaces
  · obtain ⟨e, houtcome, hunhandled⟩ := outcome_of_escapes hescapes
    obtain ⟨w', hend⟩ := (runRequest_ends rfl hopens fun file h => nomatch h).2 e houtcome
    rw [run, Plural.bounded_task]
    dsimp only
    rw [hend, endAt, hunhandled]
    rfl

end CommandLine
end Morphotactics
