import Morphotactics.Affix
import Morphotactics.Folder

/-! Exporters of a grammar. They can be asked again and again, and keep the flags they gave out. -/
namespace Morphotactics

structure Exporter where
  grammar : Grammar
  language : Text
  /-- The flags that were given out so far. -/
  flags : FlagTable := .empty

/-- What an exporter can be asked for. -/
inductive ExportCall where
  | flag (name : Text)
  | text
  | save (path : FilePath)
  deriving DecidableEq

inductive ExportAnswer where
  | flag (flag : Char)
  | text (text : Text)
  | saved
  deriving DecidableEq

inductive ExportError where
  | flags (error : FlagsExhausted)
  | file (error : FileError)
  deriving DecidableEq

namespace Exporter

/-- Runs an action on the flags of the exporter, which stay given out if it fails. -/
def ask {α : Type} (e : Exporter) (action : Flagging α) : Except ExportError α × Exporter :=
  let (result, flags) := action.runFrom e.flags
  (result.mapError .flags, { e with flags })

/-- Answers a call in a folder. Only a text that is complete is saved there. -/
def answer (e : Exporter) (folder : Folder) :
    ExportCall → Except ExportError ExportAnswer × Exporter × Folder
  | .flag name =>
    let (result, e) := e.ask (flagFor name)
    (result.map .flag, e, folder)
  | .text =>
    let (result, e) := e.ask (e.grammar.affixText e.language)
    (result.map .text, e, folder)
  | .save path =>
    match e.ask (e.grammar.affixText e.language) with
    | (.error error, e) => (.error error, e, folder)
    | (.ok text, e) =>
      match folder.update path fun _ => encodeUtf8 text with
      | .ok folder => (.ok .saved, e, folder)
      | .error error => (.error (.file error), e, folder)

/-- The exporter and the folder after calls, whether these were answered or not. -/
def answerAll (e : Exporter) (folder : Folder) : List ExportCall → Exporter × Folder
  | [] => (e, folder)
  | call :: rest =>
    let (_, e, folder) := e.answer folder call
    e.answerAll folder rest

end Exporter
end Morphotactics
