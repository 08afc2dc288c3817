import Morphotactics.Configuration

/-! Sessions: one grammar, the settings under which it is used, and what is done with it. -/
namespace Morphotactics

/-- A grammar with its settings. It may not be loaded yet. -/
structure Session where
  grammar : Option Grammar := none
  /-- The number of segmentations to stop at. -/
  limit : Option Setting := none
  language : Setting
  path : Option FilePath := none

namespace Session

open Run

def start (limit : Option Setting) (language : Setting) : Session where
  limit := limit.filter Setting.isTruthy
  language := language

def loadGrammar (s : Session) (path : FilePath) : Run Session := do
  let g ← loadFile path
  return { s with grammar := some g, path := some path }

def ofConfig (path : FilePath) : Run Session := do
  let config ← Configuration.read path
  (start config.limit config.language).loadGrammar config.grammar

def loaded (s : Session) : Run Grammar :=
  match s.grammar with
  | some g => return g
  | none => throw .noGrammar

/-- The limit of searches. Only whole numbers are limits. -/
def searchLimit (s : Session) : Except LimitFault (Option Int) :=
  match s.limit.filter Setting.isTruthy with
  | none => .ok none
  | some (.integer n) => .ok (some n)
  | some (.boolean _) => .ok (some 1)
  | some _ => .error .outOfRange

def analyze (s : Session) (word : Text) : Run (List Analysis) := do
  let g ← s.loaded
  let limit ← ofExcept (.analysis ∘ .search ∘ .limit) s.searchLimit
  let analyses ← ofExcept (.analysis ∘ .search) (analyzeAll g limit word)
  let subject := "Decomposition of ".toList ++ word.quoted
  match limit with
  | some n =>
    if n = analyses.length then
      note .analyzer .debug (subject ++ " stopped at limit ".toList ++ Text.ofInt n)
  | none => pure ()
  note .analyzer .debug
    (subject ++ ": ".toList ++ Text.ofNat analyses.length ++ " candidates".toList)
  return analyses

/-- The segmentation of the highest rank, or the word itself if there is none. -/
def best (s : Session) (word : Text) : Run Analysis :=
  return (← s.analyze word).headD (.identity word)

def analyzeByRules (s : Session) (word : Text) : Run (List Analysis) := do
  let g ← s.loaded
  let analyses ← s.analyze word
  ofExcept (.analysis ∘ .unknown) (g.byRules analyses)

def generate (s : Session) (rule root : Text) : Run (List Text) := do
  let g ← s.loaded
  ofExcept .formation (g.forms rule root)

def affix (s : Session) : Run (Text × FlagTable) := do
  let g ← s.loaded
  let (result, flags) := (g.affixText s.language.shown).runFrom .empty
  modify (·.noteAll (flags.entries.map fun (name, flag) => ⟨.hunspell, .debug,
    "Flag ".toList ++ flag :: " -> suffix set '".toList ++ name ++ ['\x27']⟩))
  return (← ofExcept .flags result, flags)

def saveAffix (s : Session) (path : FilePath) : Run FlagTable := do
  let (text, flags) ← s.affix
  writeFile path text
  return flags

def summary (s : Session) : Run (List Text) := do
  let g ← s.loaded
  let source := (s.path.map FilePath.toText).getD "<in-memory>".toList
  let limit := (s.limit.filter Setting.isTruthy).map fun limit =>
    "  Result limit:   ".toList ++ limit.shown
  return ("MorphEngine with grammar ".toList ++ source ++ [':']) ::
    g.summary.map ("  ".toList ++ ·) ++ limit.toList

end Session
end Morphotactics
