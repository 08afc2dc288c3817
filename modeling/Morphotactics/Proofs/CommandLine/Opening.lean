import Morphotactics.Proofs.CommandLine.Running

/-! Where a request gets its grammar from, and how the loading of it comes out. -/
namespace Morphotactics

open Run

section Loading

/-- A file that is there has the text as its contents. -/
def Folder.HoldsText (f : Folder) (path : FilePath) (text : Text) : Prop :=
  ∃ bytes, f.read path = .ok bytes ∧ decodeUtf8 0 bytes = .ok text

/-- The grammar that the next text to be loaded declares. -/
def Workbench.loaded (w : Workbench) (text : Text) : Except LoadError Grammar :=
  (Loading.ofText (w.blocks + 1) (unifyLineEnds text)).outcome

variable {w w' : Workbench} {path : FilePath} {text : Text}

theorem Run.loadText_yields (hfile : w.journal.file = none) (text : Text) :
    Yields w (loadText text) ((Loading.ofText (w.blocks + 1) text).outcome.mapError .load) := by
  have hget : (get : Run Workbench).run.run w = (.ok w, w) := rfl
  refine .still hget ((Yields.modify ⟨rfl, rfl⟩).after fun w₁ hw₁ => ?_)
  refine (Yields.modify (.noteAll (hw₁.file hfile) _)).after fun w₂ hw₂ => ?_
  rw [← bind_pure (Except.mapError _ _)]
  refine (Yields.ofExcept _ _).bind fun g w₃ _ hw₃ => ?_
  have hfile₃ := (hw₁.trans (hw₂.trans hw₃)).file hfile
  exact (Yields.note hfile₃ _ _ _).after fun _ _ => .pure g

theorem Run.loadFile_yields (hfile : w.journal.file = none) (h : w.folder.HoldsText path text) :
    Yields w (loadFile path) ((w.loaded text).mapError .load) := by
  obtain ⟨bytes, hread, hdecode⟩ := h
  have hbytes : (readFile path).run.run w = (.ok bytes, w) := by
    have hget : (get : Run Workbench).run.run w = (.ok w, w) := rfl
    rw [readFile, run_bind_ok hget, hread]
    rfl
  have htext : (decode bytes).run.run w = (.ok text, w) := by
    rw [decode, hdecode]
    rfl
  rw [← bind_pure (Except.mapError _ _)]
  refine .still hbytes (.still htext ((loadText_yields hfile _).bind fun g w₁ _ hw₁ => ?_))
  exact (Yields.note (hw₁.file hfile) _ _ _).after fun _ _ => .pure g

/-- The session in which a grammar has been loaded. -/
def Session.opened (s : Session) (path : FilePath) (loaded : Except LoadError Grammar) :
    Except LoadError (Session × Grammar) :=
  loaded.map fun g => ({ s with grammar := some g, path := some path }, g)

theorem Session.opened_grammar {s s' : Session} {loaded : Except LoadError Grammar} {g : Grammar}
    (h : s.opened path loaded = .ok (s', g)) : s'.grammar = some g := by
  cases loaded with
  | error e => cases h
  | ok g' =>
    obtain ⟨rfl, rfl⟩ := Prod.mk.inj (Except.ok.inj h)
    rfl

theorem Session.loadGrammar_yields (s : Session) (hfile : w.journal.file = none)
    (h : w.folder.HoldsText path text) : Yields w (s.loadGrammar path)
      ((s.opened path (w.loaded text)).mapError .load >>= fun opened => .ok opened.1) := by
  have hload := loadFile_yields hfile h
  rw [Session.opened]
  cases hloaded : w.loaded text with
  | error e =>
    rw [hloaded] at hload
    exact hload.bind fun _ _ _ _ => .pure _
  | ok g =>
    rw [hloaded] at hload
    exact hload.after fun _ _ => .pure _

end Loading

namespace CommandLine

/-- The path of the configuration that counts. -/
def configPath (request : Request) : FilePath :=
  ((given request.config).map FilePath.ofText).getD Configuration.defaultPath

/-- What a request has to work with: nothing, or a grammar from a file that is there. The file is
named by the request or by a configuration. -/
inductive Opens (request : Request) (w : Workbench) :
    Option (Except LoadError (Session × Grammar)) → Prop
  | unnamed (grammar : given request.grammar = none) (config : given request.config = none)
      (missing : w.folder.has Configuration.defaultPath = false) : Opens request w none
  | named {file text : Text} (grammar : given request.grammar = some file)
      (held : w.folder.HoldsText (.ofText file) text) :
      Opens request w (some ((Session.start none Configuration.defaultLanguage).opened
        (.ofText file) (w.loaded text)))
  | configured {found : Configuration} {text : Text} (grammar : given request.grammar = none)
      (config : (given request.config).isSome ∨ w.folder.has Configuration.defaultPath)
      (read : ((Configuration.read (configPath request)).run.run w).1 = .ok found)
      (held : w.folder.HoldsText found.grammar text) :
      Opens request w (some ((Session.start found.limit found.language).opened
        found.grammar (w.loaded text)))

variable {request : Request} {w w' : Workbench}
  {opened : Option (Except LoadError (Session × Grammar))}

theorem Opens.grammar {s : Session} {g : Grammar} (h : Opens request w (some (.ok (s, g)))) :
    s.grammar = some g := by
  generalize hopened : some (Except.ok (s, g)) = opened at h
  cases h with
  | unnamed => cases hopened
  | named | configured => exact Session.opened_grammar (Option.some.inj hopened).symm

/-- What is opened depends on the files and on the number of blocks. -/
theorem Opens.congr (h : Opens request w opened) (hfolder : w'.folder = w.folder)
    (hblocks : w'.blocks = w.blocks) : Opens request w' opened := by
  have hloaded : ∀ text, w'.loaded text = w.loaded text := fun text => by
    rw [Workbench.loaded, Workbench.loaded, hblocks]
  cases h with
  | unnamed grammar config missing => exact .unnamed grammar config (hfolder ▸ missing)
  | named grammar held =>
    rw [← hloaded]
    exact .named grammar (hfolder.symm ▸ held)
  | configured grammar config read held =>
    rw [← hloaded]
    refine .configured grammar (hfolder.symm ▸ config) ?_ (hfolder.symm ▸ held)
    rw [Configuration.read_reads _ w w' hfolder, read]

/-- How the opening of a session comes out. -/
def openingOutcome :
    Option (Except LoadError (Session × Grammar)) → Except Failure (Except Misuse Session)
  | none => .ok (.error .noSource)
  | some opened => do
    let (s, _) ← opened.mapError .load
    return .ok s

theorem ofConfig_yields {found : Configuration} {path : FilePath} {text : Text}
    (hfile : w.journal.file = none) (hread : ((Configuration.read path).run.run w).1 = .ok found)
    (hheld : w.folder.HoldsText found.grammar text) : Yields w (Session.ofConfig path)
      (((Session.start found.limit found.language).opened found.grammar
        (w.loaded text)).mapError .load >>= fun opened => .ok opened.1) := by
  have hrun : (Configuration.read path).run.run w = (.ok found, w) :=
    (Configuration.read_reads path w w rfl).trans (by rw [hread])
  exact .still hrun (Session.loadGrammar_yields _ hfile hheld)

theorem openSession_yields (h : Opens request w opened) (hfile : w.journal.file = none) :
    Yields w (openSession request) (openingOutcome opened) := by
  have hget : (get : Run Workbench).run.run w = (.ok w, w) := rfl
  rw [openSession]
  cases h with
  | unnamed grammar config missing =>
    rw [grammar, config]
    refine .still hget ?_
    rw [if_neg (by simp [missing])]
    exact .pure _
  | named grammar held =>
    have hload := ((Session.start none Configuration.defaultLanguage).loadGrammar_yields hfile
      held).bind fun s _ _ _ => .pure (.ok s : Except Misuse Session)
    rw [bind_assoc] at hload
    rw [grammar]
    exact hload
  | @configured found text grammar config read held =>
    have hload := (ofConfig_yields hfile read held).bind fun s _ _ _ =>
      .pure (.ok s : Except Misuse Session)
    rw [bind_assoc] at hload
    rw [grammar]
    cases hconfig : given request.config with
    | some file =>
      rw [configPath, hconfig] at hload
      exact hload
    | none =>
      rw [configPath, hconfig] at hload
      have hdefault : w.folder.has Configuration.defaultPath := by simpa [hconfig] using config
      refine .still hget ?_
      rw [if_pos hdefault]
      exact hload

end CommandLine
end Morphotactics
