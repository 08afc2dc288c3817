import Morphotactics.Run

/-! Configuration files. They name a grammar and say how it is to be used. -/
namespace Morphotactics

structure Configuration where
  limit : Option Setting
  language : Setting
  grammar : FilePath

namespace Configuration

open Run

def defaultLanguage : Setting :=
  .text "uz".toList

def defaultPath : FilePath :=
  .ofText "uz_affix.toml".toList

/-- A section of a configuration, empty if it is not there. -/
def section? (entries : Setting.Entries) (name : String) : Run Setting.Entries :=
  match Setting.lookup? name.toList entries with
  | none => return []
  | some (.table inner) => return inner
  | some found => throw (.noTable found)

/-- Reads a configuration file. The path in it is seen from the folder that the file is in. -/
def read (path : FilePath) : Run Configuration := do
  if !(← get).folder.has path then throw (.configMissing path)
  let text ← decode (← readFile path)
  let entries ← ofExcept .document (Setting.parseDocument text)
  let searching ← section? entries "analysis"
  let exporting ← section? entries "export"
  let loading ← section? entries "grammar"
  match (Setting.lookup? "path".toList loading).filter Setting.isTruthy with
  | none => throw (.noGrammarPath path)
  | some (.text file) =>
    return {
      limit := Setting.lookup? "limit".toList searching
      language := (Setting.lookup? "lang".toList exporting).getD defaultLanguage
      grammar := (FilePath.ofText file).from? path.parent }
  | some found => throw (.noPath found)

end Configuration
end Morphotactics
