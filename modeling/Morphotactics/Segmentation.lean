import Morphotactics.Grammar

/-! Segmentations of a word into a root and a chain of suffixes, found by a search that strips
suffixes from the end of the word. -/
namespace Morphotactics

structure SuffixAnalysis where
  suffix : Text
  description : Text
  /-- The name of the set that owns the suffix. -/
  category : Text
  /-- Suffix, description of the set and description of the suffix in one text. -/
  detail : Text
  deriving DecidableEq

def Grammar.OwnedSuffix.analysis (owned : Grammar.OwnedSuffix) : SuffixAnalysis where
  suffix := owned.2.suffix
  description := owned.2.description
  category := owned.1.name
  detail := owned.2.suffix ++ ':' :: owned.1.description ++ ':' :: owned.2.description

/-- An alternative of a rule that a chain of suffixes matches. Alternatives count from 0. -/
structure RuleMatch where
  rule : Text
  description : Text
  id : Text
  alternative : Nat
  deriving DecidableEq

/-- A root with the suffixes that follow it, the nearest first. -/
structure Analysis where
  root : Text
  suffixes : List SuffixAnalysis
  word : Text
  /-- Some suffix changed its stem, so that root and suffixes need not spell the word. -/
  transformed : Bool := false
  matched : Option RuleMatch := none
  deriving DecidableEq

namespace Analysis

def identity (word : Text) : Analysis where
  root := word
  suffixes := []
  word := word

def surface (a : Analysis) : Text :=
  a.root ++ a.suffixes.flatMap (·.suffix)

/-- The root in quotation marks and the details of the suffixes, joined by plus signs. -/
def format (a : Analysis) : Text :=
  List.intercalate " + ".toList (('"' :: a.root ++ ['"']) :: a.suffixes.map (·.detail))

def inspect (a : Analysis) : Text :=
  let parts := List.intercalate " + ".toList (a.root.quoted :: a.suffixes.map (·.suffix))
  let rule := match a.matched with
    | some m => " [".toList ++ m.rule ++ '#' :: Text.ofNat m.alternative ++ [']']
    | none => []
  "WordAnalysis(".toList ++ parts ++ rule ++ [')']

end Analysis

def minRootLength : Nat := 2

/-- What is left of a word from which suffixes have been stripped, the nearest to the root first. -/
structure Remainder where
  root : Text
  chain : List SuffixAnalysis := []
  transformed : Bool := false
  deriving DecidableEq

def Remainder.start (word : Text) : Remainder where
  root := word

def Remainder.analysis (word : Text) (r : Remainder) : Analysis where
  root := r.root
  suffixes := r.chain
  word := word
  transformed := r.transformed

/-- Strips a suffix from a text: the stem in front of it, and the stem after its change. There is
none if the suffix is empty or all of the text, if its condition does not hold of the stem, or if
the changed stem is too short for a root. -/
def SuffixDefinition.strip (d : SuffixDefinition) (text : Text) :
    Except Pattern.Invalid (Option (Text × Text)) :=
  if d.suffix.isEmpty || text.length ≤ d.suffix.length then .ok none
  else match Text.dropEnding? d.suffix text with
    | none => .ok none
    | some stem => do
      if ← d.condition.holds stem then
        let root ← d.condition.apply stem
        return if root.length < minRootLength then none else some (stem, root)
      else return none

def Remainder.extend (r : Remainder) (owned : Grammar.OwnedSuffix) (stem root : Text) :
    Remainder where
  root := root
  chain := owned.analysis :: r.chain
  transformed := r.transformed || root != stem

def Remainder.strips (r : Remainder) : List Grammar.OwnedSuffix →
    Except Pattern.Invalid (List Remainder)
  | [] => .ok []
  | owned :: rest => do
    match ← owned.2.strip r.root with
    | some (stem, root) => return r.extend owned stem root :: (← r.strips rest)
    | none => r.strips rest

def Remainder.lastLength (r : Remainder) : Nat :=
  (r.chain.head?.map (·.suffix.length)).getD 0

/-- The remainders one suffix further, those of longer suffixes first. From three characters
nothing can be stripped that leaves a root. -/
def Remainder.next (g : Grammar) (r : Remainder) : Except Pattern.Invalid (List Remainder) :=
  if r.root.length ≤ minRootLength + 1 then .ok []
  else return (← r.strips g.suffixes).mergeSort fun a b => b.lastLength ≤ a.lastLength

/-- Remainders in the order of their discovery, each before those that stripping leads to from it.
A malformed pattern stops the search, and a search that goes on for ever gives nothing. -/
def Grammar.follow (g : Grammar) : List Remainder → Option (Except Pattern.Invalid (List Remainder))
  | [] => some (.ok [])
  | r :: rest =>
    match r.next g with
    | .error error => some (.error error)
    | .ok children => do
      match ← g |>.follow children with
      | .error error => return .error error
      | .ok found =>
        match ← g |>.follow rest with
        | .error error => return .error error
        | .ok more => return .ok (r :: found ++ more)
partial_fixpoint

def Analysis.ofRemainders (word : Text) (found : List Remainder) : List Analysis :=
  found.map (·.analysis word) ++ [.identity word]

/-- Every segmentation of a word, the word itself last. -/
def discoverAll (g : Grammar) (word : Text) : Option (Except Pattern.Invalid (List Analysis)) :=
  if word.length < minRootLength then some (.ok [])
  else match (Remainder.start word).next g with
    | .error error => some (.error error)
    | .ok children => do
      match ← g.follow children with
      | .error error => return .error error
      | .ok found => return .ok (Analysis.ofRemainders word found)

/-- Remainders in the order of their discovery: those that stripping leads to from `r`, and then
those that are waiting and where they lead to. At most `budget` of them are visited, and nothing is
stripped from the last. The flag says that there are no more. -/
def explore (g : Grammar) : (budget : Nat) → Remainder → (waiting : List Remainder) →
    Except Pattern.Invalid (List Remainder × Bool)
  | 0, _, _ => .ok ([], false)
  | budget + 1, r, waiting => do
    match (← r.next g) ++ waiting with
    | [] => return ([], true)
    | first :: waiting =>
      let (found, exhausted) ← explore g budget first waiting
      return (first :: found, exhausted)

/-- The first segmentations of a word, at most `budget` of them. The word itself is the last one. -/
def discover (g : Grammar) (word : Text) (budget : Nat) :
    Except Pattern.Invalid (List Analysis) := do
  if word.length < minRootLength then return []
  let (found, exhausted) ← explore g budget (.start word) []
  let analyses := found.map (·.analysis word)
  return if exhausted && analyses.length < budget then analyses ++ [.identity word] else analyses

/-- Most suffixes first, then the shortest root. -/
def Analysis.before (a b : Analysis) : Bool :=
  b.suffixes.length < a.suffixes.length ||
    (a.suffixes.length = b.suffixes.length && a.root.length ≤ b.root.length)

/-- Analyses by rank. Those of one rank keep their order. -/
def rank (analyses : List Analysis) : List Analysis :=
  analyses.mergeSort Analysis.before

end Morphotactics
