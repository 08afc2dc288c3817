import Mathlib
import Morphotactics.CommandLine
import Morphotactics.Proofs.Stepwise

/-! Actions that write to the console alone: they leave all files as they are, and their result does
not depend on what was written before. -/
namespace Morphotactics

/-- Only the console and the output may be different, and the number of blocks. -/
structure Workbench.Quiet (w w' : Workbench) : Prop where
  folder : w'.folder = w.folder
  journal : w'.journal = w.journal

namespace Workbench.Quiet

variable {w w' w'' : Workbench}

theorem refl (w : Workbench) : Quiet w w :=
  ⟨rfl, rfl⟩

theorem trans (h : Quiet w w') (h' : Quiet w' w'') : Quiet w w'' :=
  ⟨h'.folder.trans h.folder, h'.journal.trans h.journal⟩

theorem file (h : Quiet w w') (hfile : w.journal.file = none) : w'.journal.file = none := by
  rw [h.journal, hfile]

theorem note (hfile : w.journal.file = none) (record : Record) : Quiet w (w.note record) := by
  rw [Workbench.note]
  split_ifs
  · dsimp only [tell]
    rw [hfile]
    exact ⟨rfl, rfl⟩
  · exact refl w

theorem noteAll (hfile : w.journal.file = none) (records : List Record) :
    Quiet w (w.noteAll records) := by
  induction records generalizing w with
  | nil => exact refl w
  | cons record rest ih =>
    have hfirst := note hfile record
    exact hfirst.trans (ih (hfirst.file hfile))

end Workbench.Quiet

theorem Workbench.noteAll_blocks (w : Workbench) (records : List Record) :
    (w.noteAll records).blocks = w.blocks := by
  induction records generalizing w with
  | nil => rfl
  | cons record rest ih =>
    refine (ih (w.note record)).trans ?_
    rw [Workbench.note]
    split_ifs
    · dsimp only
      split
      · rfl
      · split <;> rfl
    · rfl

/-- A journal without a file is set up without touching one. -/
theorem Workbench.openJournal_run (w : Workbench) {wanted : JournalOptions}
    (hwanted : wanted.file = none) :
    ∃ w', w.openJournal wanted = .ok w' ∧ w'.folder = w.folder ∧ w'.blocks = w.blocks ∧
      w'.journal.file = none := by
  obtain ⟨level, debug, file⟩ := wanted
  obtain rfl : file = none := hwanted
  let options : JournalOptions := ⟨level, debug, none⟩
  let opened : Workbench := { w with journal := options.journal w.journal.stamp }
  have hquiet : opened.Quiet (opened.noteAll (options.opening w.journal.stamp)) := .noteAll rfl _
  exact ⟨_, rfl, hquiet.folder, noteAll_blocks _ _, hquiet.file rfl⟩

open Workbench

variable {α β : Type}

/-- An action comes to a result without touching a file. -/
def Run.Yields (w : Workbench) (action : Run α) (result : Except Failure α) : Prop :=
  ∃ w', action.run.run w = (result, w') ∧ Quiet w w'

namespace Run.Yields

variable {w : Workbench} {action : Run α} {next : α → Run β}

theorem pure (a : α) : Yields w (Pure.pure a) (.ok a) :=
  ⟨w, rfl, .refl w⟩

theorem ofExcept {ε : Type} (wrap : ε → Failure) (result : Except ε α) :
    Yields w (Run.ofExcept wrap result) (result.mapError wrap) := by
  cases result with
  | ok a => exact ⟨w, rfl, .refl w⟩
  | error e => exact ⟨w, rfl, .refl w⟩

theorem modify {change : Workbench → Workbench} (h : Quiet w (change w)) :
    Yields w (modify change : Run PUnit) (.ok ⟨⟩) :=
  ⟨_, rfl, h⟩

theorem note (hfile : w.journal.file = none) (channel : Channel) (level : Level)
    (message : Text) : Yields w (Run.note channel level message) (.ok ⟨⟩) :=
  modify (.note hfile _)

theorem print (lines : List Text) : Yields w (CommandLine.print lines) (.ok ⟨⟩) :=
  modify ⟨rfl, rfl⟩

end Run.Yields

theorem Run.run_bind_ok {w w' : Workbench} {first : Run α} {next : α → Run β} {a : α}
    (h : first.run.run w = (.ok a, w')) :
    (first >>= next).run.run w = (next a).run.run w' := by
  simp only [ExceptT.run_bind, StateT.run_bind, h]
  rfl

theorem Run.run_bind_error {w w' : Workbench} {first : Run α} {next : α → Run β} {e : Failure}
    (h : first.run.run w = (.error e, w')) :
    (first >>= next).run.run w = (.error e, w') := by
  simp only [ExceptT.run_bind, StateT.run_bind, h]
  rfl

namespace Run.Yields

variable {w : Workbench} {first : Run α} {next : α → Run β} {result : Except Failure α}
  {result' : α → Except Failure β}

theorem bind (h : Yields w first result)
    (hnext : ∀ a w', result = .ok a → Quiet w w' → Yields w' (next a) (result' a)) :
    Yields w (first >>= next) (result >>= result') := by
  obtain ⟨w', hrun, hquiet⟩ := h
  cases result with
  | error e => exact ⟨w', run_bind_error hrun, hquiet⟩
  | ok a =>
    obtain ⟨w'', hrun', hquiet'⟩ := hnext a w' rfl hquiet
    exact ⟨w'', (run_bind_ok hrun).trans hrun', hquiet.trans hquiet'⟩

theorem after {a : α} {result' : Except Failure β} (h : Yields w first (.ok a))
    (hnext : ∀ w', Quiet w w' → Yields w' (next a) result') :
    Yields w (first >>= next) result' :=
  bind h fun _ w' ha hquiet => Except.ok.inj ha ▸ hnext w' hquiet

/-- A step that changes nothing can be left out. -/
theorem still {a : α} {result' : Except Failure β} (h : first.run.run w = (.ok a, w))
    (hnext : Yields w (next a) result') : Yields w (first >>= next) result' := by
  obtain ⟨w', hrun, hquiet⟩ := hnext
  exact ⟨w', (run_bind_ok h).trans hrun, hquiet⟩

/-- The last step of an action may do anything. -/
theorem bind_result (h : Yields w first result)
    (hnext : ∀ a w', result = .ok a → Quiet w w' → ((next a).run.run w').1 = result' a) :
    ((first >>= next).run.run w).1 = (result >>= result') := by
  obtain ⟨w', hrun, hquiet⟩ := h
  cases result with
  | error e => rw [run_bind_error hrun]; rfl
  | ok a =>
    rw [run_bind_ok hrun]
    exact hnext a w' rfl hquiet

end Run.Yields

section Reading

/-- What an action comes to is told by the files alone, and it changes nothing. -/
def Run.Reads (action : Run α) : Prop :=
  ∀ w w' : Workbench, w'.folder = w.folder →
    action.run.run w' = ((action.run.run w).1, w')

namespace Run.Reads

theorem pure (a : α) : Reads (Pure.pure a) :=
  fun _ _ _ => rfl

theorem throw (e : Failure) : Reads (MonadExcept.throw e : Run α) :=
  fun _ _ _ => rfl

theorem ofExcept {ε : Type} (wrap : ε → Failure) (result : Except ε α) :
    Reads (Run.ofExcept wrap result) := by
  cases result with
  | ok a => exact pure a
  | error e => exact throw _

theorem bind {first : Run α} {next : α → Run β} (h : Reads first) (hnext : ∀ a, Reads (next a)) :
    Reads (first >>= next) := by
  intro w w' hfolder
  have hrun' := h w w' hfolder
  have hrun := h w w rfl
  cases hresult : (first.run.run w).1 with
  | error e =>
    rw [hresult] at hrun hrun'
    rw [run_bind_error hrun', run_bind_error hrun]
  | ok a =>
    rw [hresult] at hrun hrun'
    rw [run_bind_ok hrun', run_bind_ok hrun]
    exact hnext a w w' hfolder

theorem look {next : Workbench → Run α} (h : ∀ w, Reads (next w))
    (hnext : ∀ w w' : Workbench, w'.folder = w.folder → next w' = next w) :
    Reads (get >>= next) := by
  intro w w' hfolder
  show (next w').run.run w' = (((next w).run.run w).1, w')
  rw [hnext w w' hfolder]
  exact h _ w w' hfolder

end Run.Reads

theorem Configuration.section?_reads (entries : Setting.Entries) (name : String) :
    Run.Reads (section? entries name) := by
  rw [section?]
  split
  · exact .pure _
  · exact .pure _
  · exact .throw _

theorem Run.readFile_reads (path : FilePath) : Reads (readFile path) :=
  .look (fun _ => .ofExcept _ _) fun _ _ hfolder => by rw [hfolder]

theorem Configuration.read_reads (path : FilePath) : Run.Reads (Configuration.read path) := by
  refine .look (fun w => ?_) fun _ _ hfolder => by rw [hfolder]
  dsimp only
  split_ifs
  · exact fun _ _ _ => rfl
  · refine (Run.readFile_reads path).bind fun bytes => ?_
    refine (Run.Reads.ofExcept _ _).bind fun text => ?_
    refine (Run.Reads.ofExcept _ _).bind fun entries => ?_
    refine (section?_reads _ _).bind fun searching => ?_
    refine (section?_reads _ _).bind fun exporting => ?_
    refine (section?_reads _ _).bind fun loading => ?_
    split
    · exact .throw _
    · exact .pure _
    · exact .throw _

end Reading

/-- A file can be given new contents, whatever they are. -/
def Folder.Writable (f : Folder) (path : FilePath) : Prop :=
  ∀ change, ∃ changed, f.update path change = .ok changed

theorem Run.writeFile_run {w : Workbench} {path : FilePath} (h : w.folder.Writable path)
    (text : Text) : ∃ w', (writeFile path text).run.run w = (.ok (), w') := by
  obtain ⟨changed, hchanged⟩ := h fun _ => encodeUtf8 text
  have hget : (get : Run Workbench).run.run w = (.ok w, w) := rfl
  rw [writeFile, run_bind_ok hget, hchanged]
  exact ⟨_, rfl⟩

end Morphotactics
