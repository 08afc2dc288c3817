import Morphotactics.Text.Numeral

/-! Arguments of the command line: options, their abbreviations, and errors of use. -/
namespace Morphotactics.CommandLine

inductive Flag where
  | help
  | config
  | grammar
  | analyze
  | rules
  | generate
  | exportAffix
  | showGrammar
  | limit
  | debug
  | logFile
  deriving DecidableEq

def Flag.spelling : Flag → Text
  | .help => "--help".toList
  | .config => "--config".toList
  | .grammar => "--grammar".toList
  | .analyze => "--analyze".toList
  | .rules => "--rules".toList
  | .generate => "--generate".toList
  | .exportAffix => "--export-aff".toList
  | .showGrammar => "--show-grammar".toList
  | .limit => "--limit".toList
  | .debug => "--debug".toList
  | .logFile => "--log-file".toList

def flags : List Flag :=
  [.help, .config, .grammar, .analyze, .rules, .generate, .exportAffix, .showGrammar, .limit,
    .debug, .logFile]

def Flag.arity : Flag → Nat
  | .help | .showGrammar | .debug => 0
  | .generate => 2
  | .config | .grammar | .analyze | .rules | .exportAffix | .limit | .logFile => 1

def Flag.operandNames : Flag → List Text
  | .help | .showGrammar | .debug => []
  | .config | .grammar | .exportAffix | .logFile => ["FILE".toList]
  | .analyze | .rules => ["WORD".toList]
  | .generate => ["RULE".toList, "ROOT".toList]
  | .limit => ["N".toList]

/-- What a flag does, in lines that are short enough to stand beside it. -/
def Flag.explanation : Flag → List Text
  | .help => ["show this help message and exit".toList]
  | .config => ["Path to TOML config file (default: auto-detect".toList, "uz_affix.toml)".toList]
  | .grammar => ["Path to a grammar file (overrides config)".toList]
  | .analyze => ["List every segmentation of a word".toList]
  | .rules => ["Analyze a word and validate its segmentations against".toList, "the rules".toList]
  | .generate => ["Generate all forms a rule allows for a root".toList]
  | .exportAffix => ["Write the grammar as a Hunspell .aff file".toList]
  | .showGrammar => ["Print the loaded suffix sets and rules".toList]
  | .limit => ["Stop the segmentation search after N candidates".toList]
  | .debug => ["Verbose logging".toList]
  | .logFile => ["Also append log output to FILE".toList]

/-- The name of a flag in messages: all its spellings. -/
def Flag.title : Flag → Text
  | .help => "-h/--help".toList
  | flag => flag.spelling

inductive Misuse where
  | ambiguous (argument : Text) (candidates : List Flag)
  | unrecognized (arguments : List Text)
  | ignored (flag : Flag) (operand : Text)
  | operandsMissing (flag : Flag)
  | noInteger (flag : Flag) (operand : Text)
  /-- There is nothing to load a grammar from. -/
  | noSource
  deriving DecidableEq

def Misuse.message : Misuse → Text
  | .ambiguous argument candidates =>
    "ambiguous option: ".toList ++ argument ++ " could match ".toList ++
      List.intercalate ", ".toList (candidates.map Flag.spelling)
  | .unrecognized arguments =>
    "unrecognized arguments: ".toList ++ List.intercalate [' '] arguments
  | .ignored flag operand => about flag ("ignored explicit argument ".toList ++ operand.quoted)
  | .operandsMissing flag =>
    about flag (if flag.arity = 1 then "expected one argument".toList
      else "expected ".toList ++ Text.ofNat flag.arity ++ " arguments".toList)
  | .noInteger flag operand => about flag ("invalid int value: ".toList ++ operand.quoted)
  | .noSource =>
    "No uz_affix.toml found and no --grammar flag given.\n".toList ++
      "  Either create a config file or pass --grammar explicitly.".toList
where
  about (flag : Flag) (message : Text) : Text :=
    "argument ".toList ++ flag.title ++ ": ".toList ++ message

inductive Argument where
  | operand (text : Text)
  /-- Two hyphens. Only operands follow. -/
  | divider
  /-- What looks like an option and is none. -/
  | unknown (text : Text)
  /-- A long option, with the operand that an equals sign joins to it. -/
  | long (flag : Flag) (joined : Option Text)
  /-- Short options, of which there is one. -/
  | short (letters : Text)
  deriving DecidableEq

/-- What stands before and behind the first equals sign. -/
def splitJoined (text : Text) : Text × Option Text :=
  match text.dropWhile (· != '=') with
  | [] => (text, none)
  | _ :: joined => (text.takeWhile (· != '='), some joined)

/-- Digits of any script, with or without a point before the last of them. -/
def isUnsigned (text : Text) : Bool :=
  match text.dropWhile isDecimal with
  | [] => !text.isEmpty
  | '.' :: rest => !rest.isEmpty && rest.all isDecimal
  | _ => false

/-- Negative numbers are operands. A line feed at the end is let pass. -/
def isNegative : Text → Bool
  | '-' :: rest => isUnsigned rest || (rest.getLast? = some '\n' && isUnsigned rest.dropLast)
  | _ => false

/-- Long options may be cut short as long as one flag alone begins that way. -/
def classify (text : Text) : Except Misuse Argument :=
  let (name, joined) := splitJoined text
  let candidates := flags.filter fun flag => name.isPrefixOf flag.spelling
  let other : Argument :=
    if isNegative text || text.elem ' ' then .operand text else .unknown text
  match text with
  | '-' :: '-' :: _ =>
    match flags.find? fun flag => flag.spelling = name, candidates with
    | some flag, _ => .ok (.long flag joined)
    | none, [flag] => .ok (.long flag joined)
    | none, [] => .ok other
    | none, several => .error (.ambiguous text several)
  | '-' :: 'h' :: rest => .ok (.short ('h' :: rest))
  | '-' :: _ :: _ => .ok other
  | _ => .ok (.operand text)

def classifyAll : List Text → Except Misuse (List Argument)
  | [] => .ok []
  | text :: rest =>
    if text = ['-', '-'] then .ok (.divider :: rest.map .operand)
    else return (← classify text) :: (← classifyAll rest)

structure Request where
  config : Option Text := none
  grammar : Option Text := none
  analyze : Option Text := none
  rules : Option Text := none
  generate : Option (Text × Text) := none
  exportAffix : Option Text := none
  showGrammar : Bool := false
  limit : Option Int := none
  debug : Bool := false
  logFile : Option Text := none
  deriving DecidableEq

namespace Request

/-- A request with a flag and its operands added. The last one counts. -/
def add (request : Request) : (flag : Flag) → (operands : List Text) → Except Misuse Request
  | .config, [file] => .ok { request with config := some file }
  | .grammar, [file] => .ok { request with grammar := some file }
  | .analyze, [word] => .ok { request with analyze := some word }
  | .rules, [word] => .ok { request with rules := some word }
  | .generate, [rule, root] => .ok { request with generate := some (rule, root) }
  | .exportAffix, [file] => .ok { request with exportAffix := some file }
  | .showGrammar, [] => .ok { request with showGrammar := true }
  | .limit, [number] =>
    match readInteger number with
    | .ok n => .ok { request with limit := some n }
    | .error _ => .error (.noInteger .limit number)
  | .debug, [] => .ok { request with debug := true }
  | .logFile, [file] => .ok { request with logFile := some file }
  | .help, [] => .ok request
  | flag, _ => .error (.operandsMissing flag)

end Request

def takeOperands : Nat → List Argument → Option (List Text × List Argument)
  | 0, rest => some ([], rest)
  | n + 1, .operand text :: rest => do
    let (operands, rest) ← takeOperands n rest
    return (text :: operands, rest)
  | _ + 1, _ => none

theorem takeOperands_length {n : Nat} {arguments rest : List Argument} {operands : List Text}
    (h : takeOperands n arguments = some (operands, rest)) : rest.length ≤ arguments.length := by
  induction n generalizing arguments operands rest with
  | zero => simp_all [takeOperands]
  | succ n ih =>
    match arguments with
    | .operand text :: arguments =>
      simp only [takeOperands, bind, Option.bind] at h
      cases h1 : takeOperands n arguments with
      | none => simp [h1] at h
      | some found =>
        obtain ⟨operands', rest'⟩ := found
        have := ih h1
        simp only [h1, pure, Option.some.injEq, Prod.mk.injEq] at h
        rw [← h.2]
        exact Nat.le_succ_of_le this
    | [] | .divider :: _ | .unknown _ :: _ | .long _ _ :: _ | .short _ :: _ =>
      simp [takeOperands] at h

/-- What cannot be used of the letters of short options. The one there is can be repeated, and other
letters are let pass. -/
def unusable : Text → Option Text
  | 'h' :: '=' :: joined => some joined
  | 'h' :: rest => unusable rest
  | '-' :: rest => some ('-' :: rest)
  | _ => none

inductive Task where
  | help
  | run (request : Request)
  deriving DecidableEq

/-- Reads arguments into a request, after those that were let pass. -/
def readTask (request : Request) (passed : List Text) : List Argument → Except Misuse Task
  | [] => if passed.isEmpty then .ok (.run request) else .error (.unrecognized passed)
  | .operand text :: rest => readTask request (passed ++ [text]) rest
  | .divider :: rest => readTask request (passed ++ [['-', '-']]) rest
  | .unknown text :: rest => readTask request (passed ++ [text]) rest
  | .short letters :: _ =>
    match unusable letters with
    | some operand => .error (.ignored .help operand)
    | none => .ok .help
  | .long flag (some operand) :: rest =>
    if flag.arity = 0 then .error (.ignored flag operand)
    else do readTask (← request.add flag [operand]) passed rest
  | .long flag none :: rest =>
    match _h : takeOperands flag.arity rest with
    | none => .error (.operandsMissing flag)
    | some (operands, rest) =>
      if flag = .help then .ok .help
      else do readTask (← request.add flag operands) passed rest
termination_by arguments => arguments.length
decreasing_by
  all_goals simp only [List.length_cons]
  all_goals try omega
  have := takeOperands_length _h
  omega

def Task.ofArguments (arguments : List Text) : Except Misuse Task := do
  readTask {} [] (← classifyAll arguments)

end Morphotactics.CommandLine
