import Morphotactics.Grammar.Declaration
import Morphotactics.Token.Lexer

/-! Grammars built from declarations, and the loading of a grammar from its text. -/
namespace Morphotactics

/-- Something about a grammar that is allowed but may not be meant. -/
inductive Notice where
  | suffixAgain (suffix set : Text)
  | setAgain (set : Text)
  deriving DecidableEq

def Notice.message : Notice → Text
  | .suffixAgain suffix set =>
    "Suffix '".toList ++ suffix ++ "' declared twice in set '".toList ++ set ++
      "'; keeping the last declaration".toList
  | .setAgain set =>
    "Suffix set '".toList ++ set ++
      "' declared again; the later declaration replaces it".toList

/-- Suffixes that stand after another definition of the same suffix. -/
def suffixNotices (set : Text) (seen : List Text) : List SuffixDefinition → List Notice
  | [] => []
  | d :: rest =>
    (if seen.elem d.suffix then [.suffixAgain d.suffix set] else []) ++
      suffixNotices set (d.suffix :: seen) rest

def declarationNotices (seen : List Text) : List Declaration → List Notice
  | [] => []
  | .set name _ definitions :: rest =>
    suffixNotices name [] definitions ++
      (if seen.elem name then [.setAgain name] else []) ++
        declarationNotices (name :: seen) rest
  | .rule _ _ _ :: rest => declarationNotices seen rest

namespace Grammar

/-- A grammar with one more declaration. A set takes the place of an earlier one of its name; a
rule block joins the others of its name and gets the given number. -/
def add (g : Grammar) (serial : Nat) : Declaration → Grammar
  | .set name description definitions =>
    let suffixes := Table.ofList (definitions.map fun d => (d.suffix, d))
    { g with sets := g.sets.insert name ⟨name, description, suffixes⟩ }
  | .rule name description alternatives =>
    let earlier := (g.rules.find? name).getD []
    { g with rules := g.rules.insert name (earlier ++ [⟨name, description, alternatives, serial⟩]) }

def addAll (g : Grammar) (serial : Nat) : List Declaration → Grammar
  | [] => g
  | .set name description definitions :: rest =>
    (g.add serial (.set name description definitions)).addAll serial rest
  | .rule name description alternatives :: rest =>
    (g.add serial (.rule name description alternatives)).addAll (serial + 1) rest

def ofDeclarations (serial : Nat) (declarations : List Declaration) : Grammar :=
  empty.addAll serial declarations

end Grammar

/-- A list of tokens read to its end token, or to the first declaration that cannot be read. -/
structure Reading where
  declarations : List Declaration
  /-- Name and definitions of a suffix set in the middle of which the reading ended. -/
  unfinished : Option (Text × List SuffixDefinition)
  ending : Except ParseError Unit

/-- The part of a suffix set that can be read, where the whole of it cannot. -/
def readUnfinished (ts : Tokens) : Option (Text × List SuffixDefinition) :=
  match readHeader .suffix ts with
  | .ok ((name, _), ts) => some (name, (readDefinitions ts).1)
  | .error _ => none

def readDeclarations (ts : Tokens) : Reading :=
  if ts.at? .eof then ⟨[], none, .ok ()⟩
  else match _h : readDeclaration ts with
    | .error e => ⟨[], readUnfinished ts, .error e⟩
    | .ok (declaration, left) =>
      let more := readDeclarations left
      { more with declarations := declaration :: more.declarations }
termination_by ts.length
decreasing_by exact readDeclaration_length _h

inductive LoadError where
  | lexical (error : LexError)
  | parse (error : ParseError)
  | noEnd
  deriving DecidableEq

/-- The wording of an error, followed by its place if it has one. -/
def LoadError.message : LoadError → Text
  | .lexical error => placed error.problem.message error.position
  | .parse (.unexpected expected found position) =>
    placed ("Expected ".toList ++ expected.message ++ ", found ".toList ++ found.name) position
  | .parse (.numeral fault) => fault.message
  | .noEnd => "Token stream must end with EOF".toList
where
  placed (message : Text) (position : Position) : Text :=
    message ++ " at line ".toList ++ Text.ofNat position.line ++
      ':' :: Text.ofNat position.column

structure Loading where
  notices : List Notice
  /-- The number of rule blocks that were completed. -/
  blocks : Nat
  outcome : Except LoadError Grammar

def blockCount (declarations : List Declaration) : Nat :=
  declarations.countP fun
    | .rule _ _ _ => true
    | .set _ _ _ => false

namespace Loading

/-- Loads a grammar from tokens, the last of which has to be an end token. -/
def ofTokens (serial : Nat) (ts : Tokens) : Loading :=
  if ts.getLast?.map (·.kind) = some .eof then
    let reading := readDeclarations ts
    { notices := declarationNotices [] reading.declarations ++
        (reading.unfinished.map fun u => suffixNotices u.1 [] u.2).getD []
      blocks := blockCount reading.declarations
      outcome := match reading.ending with
        | .ok () => .ok (.ofDeclarations serial reading.declarations)
        | .error e => .error (.parse e) }
  else ⟨[], 0, .error .noEnd⟩

def ofText (serial : Nat) (text : Text) : Loading :=
  match tokenize text with
  | .ok ts => ofTokens serial ts
  | .error e => ⟨[], 0, .error (.lexical e)⟩

end Loading

def Grammar.read (text : Text) : Except LoadError Grammar :=
  (Loading.ofText 1 text).outcome

end Morphotactics
