import Morphotactics.Affix
import Morphotactics.Annotation
import Morphotactics.Formation
import Morphotactics.Grammar.Format
import Morphotactics.Grammar.Loading
import Morphotactics.Setting.Document
import Morphotactics.Workbench

/-! Actions that read and write files, leave records in the journal, and may fail. -/
namespace Morphotactics

inductive Failure where
  | noGrammar
  | configMissing (path : FilePath)
  /-- A section of a configuration is no table. -/
  | noTable (found : Setting)
  | noGrammarPath (config : FilePath)
  /-- The path of the grammar is no text. -/
  | noPath (found : Setting)
  | file (error : FileError)
  | encoding (fault : EncodingFault)
  | document (fault : Setting.DocumentFault)
  | load (error : LoadError)
  | analysis (error : AnalysisError)
  | formation (error : FormationError)
  | flags (error : FlagsExhausted)

def Failure.message : Failure → Text
  | .noGrammar => "No grammar loaded".toList
  | .configMissing path => "Config not found: ".toList ++ path.toText
  | .noTable found => '\x27' :: found.qualifiedKind ++ "' object has no attribute 'get'".toList
  | .noGrammarPath config => "[grammar] path not configured in ".toList ++ config.toText
  | .noPath found => "expected str, bytes or os.PathLike object, not ".toList ++ found.kindName
  | .file error => error.message
  | .encoding fault => fault.message
  | .document fault => fault.message
  | .load error => error.message
  | .analysis (.search error) => error.message
  | .analysis (.unknown name) | .formation (.unknown name) => name.message
  | .formation (.pattern error) => error.message
  | .flags error => error.message

/-- Actions on the state of a run. What was done before a failure stays done. -/
abbrev Run := ExceptT Failure (StateM Workbench)

namespace Run

def ofExcept {ε α : Type} (wrap : ε → Failure) (result : Except ε α) : Run α :=
  match result with
  | .ok a => return a
  | .error e => throw (wrap e)

def note (channel : Channel) (level : Level) (message : Text) : Run Unit :=
  modify (·.note ⟨channel, level, message⟩)

def readFile (path : FilePath) : Run Bytes := do
  ofExcept .file ((← get).folder.read path)

def writeFile (path : FilePath) (text : Text) : Run Unit := do
  let folder ← ofExcept .file ((← get).folder.update path fun _ => encodeUtf8 text)
  modify ({ · with folder := folder })

def decode (bytes : Bytes) : Run Text :=
  ofExcept .encoding (decodeUtf8 0 bytes)

/-- Loads a grammar from its text. Blocks are numbered through all texts that are loaded. -/
def loadText (text : Text) : Run Grammar := do
  let loading := Loading.ofText ((← get).blocks + 1) text
  modify fun w => { w with blocks := w.blocks + loading.blocks }
  modify (·.noteAll (loading.notices.map fun notice => ⟨.parser, .warning, notice.message⟩))
  let g ← ofExcept .load loading.outcome
  note .parser .debug ("Parsed grammar: ".toList ++ g.counts ++ " rule names".toList)
  return g

def loadFile (path : FilePath) : Run Grammar := do
  let g ← loadText (unifyLineEnds (← decode (← readFile path)))
  note .engine .info
    ("Loaded grammar ".toList ++ path.toText ++ ": ".toList ++ g.counts ++ " rules".toList)
  return g

end Run

end Morphotactics
