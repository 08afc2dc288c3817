import Morphotactics.CommandLine
import Std.Time.Format

/-! The program: it reads the files that its arguments name, runs the arguments, and writes what has
changed. -/
namespace Morphotactics.Main

open CommandLine

def nameOf (path : FilePath) : String :=
  String.ofList path.toText

/-- Adds what is found under a path to a folder. Folders cannot be read. -/
def fetch (folder : Folder) (path : FilePath) : IO Folder := do
  let place := path.collapse
  try
    let contents ← IO.FS.readBinFile (nameOf path)
    return folder.put place contents.toList
  catch
    | .inappropriateType _ 21 _ => return { folder with folders := place :: folder.folders }
    | _ => return folder

def fetchAll (folder : Folder) (paths : List FilePath) : IO Folder :=
  (paths ++ paths.map FilePath.parent).foldlM fetch folder

def readStamp : IO Stamp := do
  let now ← Std.Time.PlainDateTime.now
  return {
    moment := (now.format "uuuu-MM-dd HH:mm:ss,SSS").toList
    beginning := (now.format "uuuu-MM-dd HH:mm:ss").toList
    place := '[' :: programName ++ [']'] }

/-- Writes the files that are not as they were. -/
def writeChanges (before after : Folder) : IO Unit :=
  after.files.forM fun (path, contents) => do
    if before.files.lookup path ≠ some contents then
      IO.FS.writeBinFile (nameOf path) ⟨contents.toArray⟩

def runArguments (arguments : List Text) : IO UInt32 := do
  let journal : Journal := { stamp := ← readStamp }
  let named ← fetchAll ⟨[], []⟩ (filesOf arguments ⟨⟨[], []⟩, journal, 0, [], []⟩)
  let folder ← fetchAll named (filesOf arguments ⟨named, journal, 0, [], []⟩)
  let (ending, w) := run arguments ⟨folder, journal, 0, [], []⟩
  writeChanges folder w.folder
  IO.print (String.ofList w.output)
  IO.eprint (String.ofList w.console)
  match ending with
  | .misused misuse =>
    IO.eprint (String.ofList (List.intercalate ['\n'] usage ++ '\n' :: misuseReport misuse))
  | .broken failure => IO.eprint (String.ofList (failure.message ++ ['\n']))
  | .done | .failed => pure ()
  return UInt32.ofNat (ending.status?.getD 1)

end Morphotactics.Main

def main (arguments : List String) : IO UInt32 :=
  Morphotactics.Main.runArguments (arguments.map String.toList)
