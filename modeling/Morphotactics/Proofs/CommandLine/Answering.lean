import Morphotactics.Proofs.CommandLine.Running

/-! How the answers to a request come out: each part of it as its data alone decide. -/
namespace Morphotactics

open Run

/-- The segmentations that a session finds, or the failure of the search. -/
def Session.searched (s : Session) (g : Grammar) (word : Text) : Except Failure (List Analysis) :=
  s.searchLimit.mapError (.analysis ∘ .search ∘ .limit) >>= fun limit =>
    (analyzeAll g limit word).mapError (.analysis ∘ .search)

/-- The affix file of a session, or the failure to find room for its flags. -/
def Session.exported (s : Session) (g : Grammar) : Except Failure Text :=
  ((g.affixText s.language.shown).runFrom .empty).1.mapError .flags

namespace CommandLine

section Parts

variable (request : Request) (s : Session)

def grammarPart : Run Unit :=
  if request.showGrammar then do print (grammarReport (← s.loaded)) else return ()

def analysisPart : Run Unit :=
  match given request.analyze with
  | some word => do print (analysisReport word (← s.analyze word))
  | none => return ()

def rulesPart : Run Unit :=
  match given request.rules with
  | some word => do print (rulesReport word (← s.analyzeByRules word))
  | none => return ()

def formsPart : Run Unit :=
  match request.generate with
  | some (rule, root) => do print (formsReport rule root (← s.generate rule root))
  | none => return ()

def affixPart : Run Unit :=
  match given request.exportAffix with
  | some file => do print (affixReport file (← s.saveAffix (.ofText file)))
  | none => return ()

theorem answer_eq : answer request s = (do
    grammarPart request s
    analysisPart request s
    rulesPart request s
    formsPart request s
    affixPart request s) := by
  unfold answer grammarPart analysisPart rulesPart formsPart affixPart
  cases request.showGrammar <;> cases given request.analyze <;> cases given request.rules <;>
    cases request.generate <;> cases given request.exportAffix <;>
      simp only [bind_assoc, pure_bind, if_true, if_false, Bool.false_eq_true]

end Parts

section Outcomes

variable (request : Request) (s : Session) (g : Grammar)

def analysisOutcome : Except Failure Unit :=
  match given request.analyze with
  | some word => do
    let _ ← s.searched g word
    return ()
  | none => return ()

def rulesOutcome : Except Failure Unit :=
  match given request.rules with
  | some word => do
    let analyses ← s.searched g word
    let _ ← (g.byRules analyses).mapError (Failure.analysis ∘ .unknown)
    return ()
  | none => return ()

def formsOutcome : Except Failure Unit :=
  match request.generate with
  | some (rule, root) => do
    let _ ← (g.forms rule root).mapError .formation
    return ()
  | none => return ()

def affixOutcome : Except Failure Unit :=
  match given request.exportAffix with
  | some _ => do
    let _ ← s.exported g
    return ()
  | none => return ()

/-- How the answer to a request comes out: the first of its parts that fails decides. -/
def answered : Except Failure Unit := do
  analysisOutcome request s g
  rulesOutcome request s g
  formsOutcome request g
  affixOutcome request s g

end Outcomes

end CommandLine

section Sessions

variable {s : Session} {g : Grammar} {w : Workbench} (hg : s.grammar = some g)
  (hfile : w.journal.file = none)

include hg

theorem Session.loaded_yields : Yields w s.loaded (.ok g) := by
  rw [Session.loaded, hg]
  exact .pure g

theorem Session.generate_yields (rule root : Text) :
    Yields w (s.generate rule root) ((g.forms rule root).mapError .formation) :=
  (s.loaded_yields hg).after fun _ _ => .ofExcept _ _

theorem Session.summary_yields : ∃ lines, Yields w s.summary (.ok lines) :=
  ⟨_, (s.loaded_yields hg).after fun _ _ => .pure _⟩

include hfile

theorem Session.analyze_yields (word : Text) :
    Yields w (s.analyze word) (s.searched g word) := by
  refine (s.loaded_yields hg).after fun w₁ hw₁ => ?_
  refine (Yields.ofExcept _ _).bind fun limit w₂ _ hw₂ => ?_
  rw [← bind_pure ((analyzeAll g limit word).mapError _)]
  refine (Yields.ofExcept _ _).bind fun analyses w₃ _ hw₃ => ?_
  have hfile₃ : w₃.journal.file = none := (hw₁.trans (hw₂.trans hw₃)).file hfile
  have hlast : ∀ w' message, w'.journal.file = none →
      Yields w' (do Run.note .analyzer .debug message; return analyses) (.ok analyses) :=
    fun _ message h => (Yields.note h _ _ message).after fun _ _ => .pure _
  cases limit with
  | none => exact hlast w₃ _ hfile₃
  | some n =>
    dsimp only
    split_ifs
    · exact (Yields.note hfile₃ _ _ _).after fun w₄ hw₄ => hlast w₄ _ (hw₄.file hfile₃)
    · exact hlast w₃ _ hfile₃

theorem Session.analyzeByRules_yields (word : Text) :
    Yields w (s.analyzeByRules word) (s.searched g word >>= fun analyses =>
      (g.byRules analyses).mapError (Failure.analysis ∘ .unknown)) := by
  refine (s.loaded_yields hg).after fun w₁ hw₁ => ?_
  exact (s.analyze_yields hg (hw₁.file hfile) word).bind fun analyses _ _ _ => .ofExcept _ _

theorem Session.affix_yields : ∃ flags, Yields w s.affix
    (s.exported g >>= fun text => .ok (text, flags)) := by
  refine ⟨((g.affixText s.language.shown).runFrom .empty).2, ?_⟩
  refine (s.loaded_yields hg).after fun w₁ hw₁ => ?_
  refine (Yields.modify (.noteAll (hw₁.file hfile) _)).after fun w₂ hw₂ => ?_
  exact (Yields.ofExcept _ _).bind fun text _ _ _ => .pure _

/-- Writing the affix file fails where there is no room for its flags, and only there. -/
theorem Session.saveAffix_run {path : FilePath} (hwritable : w.folder.Writable path) :
    ∃ flags w', (s.saveAffix path).run.run w =
      (s.exported g >>= fun _ => .ok flags, w') := by
  obtain ⟨flags, w₁, hrun, hquiet⟩ := s.affix_yields hg hfile
  cases hexported : s.exported g with
  | error e =>
    rw [hexported] at hrun
    exact ⟨flags, w₁, run_bind_error hrun⟩
  | ok text =>
    rw [hexported] at hrun
    obtain ⟨w₂, hwrite⟩ := writeFile_run (hquiet.folder.symm ▸ hwritable) text
    exact ⟨flags, w₂, (run_bind_ok hrun).trans (run_bind_ok hwrite)⟩

end Sessions

namespace CommandLine

section Answers

variable {request : Request} {s : Session} {g : Grammar} {w : Workbench}
  (hg : s.grammar = some g) (hfile : w.journal.file = none)

include hg

theorem grammarPart_yields : Yields w (grammarPart request s) (.ok ()) := by
  rw [grammarPart]
  split_ifs
  · exact (s.loaded_yields hg).after fun _ _ => .print _
  · exact .pure ()

theorem formsPart_yields : Yields w (formsPart request s) (formsOutcome request g) := by
  rw [formsPart, formsOutcome]
  split
  · exact (s.generate_yields hg _ _).bind fun _ _ _ _ => .print _
  · exact .pure ()

include hfile

theorem analysisPart_yields : Yields w (analysisPart request s) (analysisOutcome request s g) := by
  rw [analysisPart, analysisOutcome]
  split
  · exact (s.analyze_yields hg hfile _).bind fun _ _ _ _ => .print _
  · exact .pure ()

theorem rulesPart_yields : Yields w (rulesPart request s) (rulesOutcome request s g) := by
  rw [rulesPart, rulesOutcome]
  split
  · rw [← bind_assoc]
    exact (s.analyzeByRules_yields hg hfile _).bind fun _ _ _ _ => .print _
  · exact .pure ()

variable (hwritable : ∀ file, given request.exportAffix = some file →
  w.folder.Writable (.ofText file))

include hwritable

theorem affixPart_result :
    ((affixPart request s).run.run w).1 = affixOutcome request s g := by
  rw [affixPart, affixOutcome]
  split
  · rename_i file hgiven
    obtain ⟨flags, w', hrun⟩ := s.saveAffix_run hg hfile (hwritable file hgiven)
    cases hexported : s.exported g with
    | error e =>
      rw [hexported] at hrun
      rw [run_bind_error hrun]
      rfl
    | ok text =>
      rw [hexported] at hrun
      rw [run_bind_ok hrun]
      rfl
  · rfl

theorem answer_result : ((answer request s).run.run w).1 = answered request s g := by
  have hkeeps : ∀ w', w.Quiet w' → ∀ file, given request.exportAffix = some file →
      w'.folder.Writable (.ofText file) :=
    fun _ hw' file hgiven => hw'.folder.symm ▸ hwritable file hgiven
  have hpart : Yields w (grammarPart request s) (.ok ()) := grammarPart_yields hg
  obtain ⟨w₁, hgrammar, hw₁⟩ := hpart
  rw [answer_eq, answered, run_bind_ok hgrammar]
  refine (analysisPart_yields hg (hw₁.file hfile)).bind_result fun _ w₂ _ hw₂ => ?_
  have hw₂ := hw₁.trans hw₂
  refine (rulesPart_yields hg (hw₂.file hfile)).bind_result fun _ w₃ _ hw₃ => ?_
  have hw₃ := hw₂.trans hw₃
  refine (formsPart_yields hg).bind_result fun _ w₄ _ hw₄ => ?_
  have hw₄ := hw₃.trans hw₄
  exact affixPart_result hg (hw₄.file hfile) (hkeeps w₄ hw₄)

end Answers

end CommandLine

end Morphotactics
