import Morphotactics.Journal

/-! The state of a run: the files it works on, its journal, and all it has written. -/
namespace Morphotactics

structure Workbench where
  folder : Folder
  journal : Journal
  /-- The number of rule blocks that were completed. -/
  blocks : Nat := 0
  output : Text := []
  /-- What was written to the console beside it. -/
  console : Text := []

namespace Workbench

def print (w : Workbench) (lines : List Text) : Workbench :=
  { w with output := w.output ++ lines.flatMap (· ++ ['\n']) }

def tell (w : Workbench) (text : Text) : Workbench :=
  { w with console := w.console ++ text }

def note (w : Workbench) (record : Record) : Workbench :=
  if w.journal.admits record then
    let line := w.journal.layout.render w.journal.stamp record
    let w := w.tell line
    match w.journal.file with
    | none => w
    | some path =>
      match w.folder.update path (· ++ encodeUtf8 line) with
      | .ok folder => { w with folder := folder }
      | .error _ => w
  else w

def noteAll (w : Workbench) (records : List Record) : Workbench :=
  records.foldl note w

/-- Sets up the journal. Its file is made, if need be, and added to. -/
def openJournal (w : Workbench) (wanted : JournalOptions) : Except FileError Workbench := do
  let options := { wanted with file := wanted.file.map FilePath.collapse }
  let folder ← match options.file with
    | some path => w.folder.update path id
    | none => .ok w.folder
  let w := { w with folder := folder, journal := options.journal w.journal.stamp }
  return w.noteAll (options.opening w.journal.stamp)

end Workbench
end Morphotactics
