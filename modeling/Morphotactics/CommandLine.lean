import Morphotactics.CommandLine.Arguments
import Morphotactics.CommandLine.Report
import Morphotactics.Session

/-! Runs of the command line: what is asked of a session, and how it ends. -/
namespace Morphotactics.CommandLine

inductive Ending where
  | done
  /-- A failure was reported on the console. -/
  | failed
  | misused (misuse : Misuse)
  /-- A failure that no report is made of. -/
  | broken (error : Failure)

def Ending.status? : Ending → Option Nat
  | .done => some 0
  | .failed => some 1
  | .misused _ => some 2
  | .broken _ => none

def isLoadFailure : Failure → Bool
  | .configMissing _ | .noGrammarPath _ | .encoding _ | .document _ | .load _ => true
  | .file error => error.problem = .notFound || error.problem = .nullByte
  | _ => false

def isReported (error : Pattern.Invalid) : Bool :=
  match error.fault with
  | .numeral _ => false
  | _ => true

def isUseFailure : Failure → Bool
  | .analysis (.unknown _) | .formation (.unknown _) | .flags _ => true
  | .analysis (.search (.pattern error)) | .formation (.pattern error) => isReported error
  | _ => false

/-- A text that is there and not empty. -/
def given (operand : Option Text) : Option Text :=
  operand.filter (!·.isEmpty)

def openSession (request : Request) : Run (Except Misuse Session) := do
  match given request.grammar, given request.config with
  | some file, _ =>
    return .ok (← (Session.start none Configuration.defaultLanguage).loadGrammar (.ofText file))
  | none, some file => return .ok (← Session.ofConfig (.ofText file))
  | none, none =>
    if (← get).folder.has Configuration.defaultPath then
      return .ok (← Session.ofConfig Configuration.defaultPath)
    else return .error .noSource

def print (lines : List Text) : Run Unit :=
  modify (·.print lines)

/-- Answers a request. Each part of it is printed as soon as it is there. -/
def answer (request : Request) (s : Session) : Run Unit := do
  if request.showGrammar then
    print (grammarReport (← s.loaded))
  if let some word := given request.analyze then
    print (analysisReport word (← s.analyze word))
  if let some word := given request.rules then
    print (rulesReport word (← s.analyzeByRules word))
  if let some (rule, root) := request.generate then
    print (formsReport rule root (← s.generate rule root))
  if let some file := given request.exportAffix then
    print (affixReport file (← s.saveAffix (.ofText file)))

def limited (request : Request) (s : Session) : Session :=
  match request.limit with
  | some n => { s with limit := (some (.integer n)).filter Setting.isTruthy }
  | none => s

/-- The journal that a request asks for. Details of a run belong in a file. -/
def journalOptions (request : Request) : JournalOptions where
  level := if (given request.logFile).isSome then .info else .warning
  debug := request.debug
  file := (given request.logFile).map FilePath.ofText

def endAt (isHandled : Failure → Bool) (error : Failure) (w : Workbench) :
    Ending × Workbench :=
  if isHandled error then
    (.failed, w.tell ("ERROR: ".toList ++ error.message ++ ['\n']))
  else (.broken error, w)

def runRequest (request : Request) (w : Workbench) : Ending × Workbench :=
  match w.openJournal (journalOptions request) with
  | .error error => (.broken (.file error), w)
  | .ok w =>
    match (openSession request).run.run w with
    | (.error error, w) => endAt isLoadFailure error w
    | (.ok (.error misuse), w) => (.misused misuse, w)
    | (.ok (.ok s), w) =>
      let s := limited request s
      let work : Run Unit := do
        print ((← s.summary) ++ [[]])
        answer request s
      match work.run.run w with
      | (.error error, w) => endAt isUseFailure error w
      | (.ok (), w) => (.done, w)

/-- The files that arguments name and, as far as it can be read, those that a configuration among
them names. -/
def filesOf (arguments : List Text) (w : Workbench) : List FilePath :=
  match Task.ofArguments arguments with
  | .ok (.run request) =>
    let config := ((given request.config).map FilePath.ofText).getD Configuration.defaultPath
    let configured := match ((Configuration.read config).run.run w).1 with
      | .ok found => [found.grammar]
      | .error _ => []
    let named := [request.grammar, request.exportAffix, request.logFile].filterMap given
    config :: configured ++ named.map FilePath.ofText
  | _ => []

def programName : Text := "uz-affix".toList

def misuseReport (misuse : Misuse) : Text :=
  programName ++ ": error: ".toList ++ misuse.message ++ ['\n']

def usage : List Text :=
  ["usage: uz-affix [-h] [--config FILE] [--grammar FILE] [--analyze WORD]",
    "                [--rules WORD] [--generate RULE ROOT] [--export-aff FILE]",
    "                [--show-grammar] [--limit N] [--debug] [--log-file FILE]"].map String.toList

/-- The column at which explanations begin. -/
def explanationColumn : Nat := 24

/-- A flag with its operands, and behind it what it does. -/
def Flag.description (flag : Flag) : List Text :=
  let spellings := if flag = .help then "-h, --help".toList else flag.spelling
  let form := "  ".toList ++ List.intercalate [' '] (spellings :: flag.operandNames)
  match flag.explanation with
  | [] => [form]
  | first :: rest => (form.rightpad explanationColumn ' ' ++ first) ::
      rest.map (List.replicate explanationColumn ' ' ++ ·)

def help : List Text :=
  usage ++ [[], "Suffix grammar analyzer and form generator".toList, [], "options:".toList] ++
    flags.flatMap Flag.description

def run (arguments : List Text) (w : Workbench) : Ending × Workbench :=
  match Task.ofArguments arguments with
  | .error misuse => (.misused misuse, w)
  | .ok .help => (.done, w.print help)
  | .ok (.run request) => runRequest request w

end Morphotactics.CommandLine
