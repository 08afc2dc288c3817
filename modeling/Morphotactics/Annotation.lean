import Morphotactics.Segmentation.Limit

/-! Segmentations matched against the rules of a grammar. -/
namespace Morphotactics

/-- Analyses that match a rule are ahead of the others, and else those of a higher rank. -/
def Analysis.ahead (a b : Analysis) : Bool :=
  if a.matched.isSome = b.matched.isSome then a.before b else a.matched.isSome

/-- Whether an element can take a suffix. Only sets and glosses take one. -/
def Element.takes : Element → SuffixAnalysis → Bool
  | .setRef name, s => s.category = name
  | .glossed glosses, s => glosses.contains s.suffix
  | .literal _, _ | .optional _, _ => false

/-- Whether an alternative matches a chain of suffixes. An optional element takes a suffix whenever
it can, and a literal asks nothing. -/
def accepts : Alternative → List SuffixAnalysis → Bool
  | [], chain => chain.isEmpty
  | .literal _ :: rest, chain => accepts rest chain
  | .optional child :: rest, s :: chain =>
    if child.takes s then accepts rest chain else accepts rest (s :: chain)
  | .optional _ :: rest, [] => accepts rest []
  | element :: rest, s :: chain => element.takes s && accepts rest chain
  | _ :: _, [] => false

def Rule.matchAt (rule : Rule) (index : Nat) : RuleMatch :=
  ⟨rule.name, rule.description, rule.id, index⟩

namespace Grammar

/-- Every set that an alternative refers to has to be declared. -/
def checkReferences (g : Grammar) : Alternative → Except UnknownName Unit
  | [] => .ok ()
  | e :: rest =>
    match e.reference? with
    | none => g.checkReferences rest
    | some name => do
      let _ ← g.suffixSet name
      g.checkReferences rest

/-- The matches of a chain with alternatives of a rule, the first of which has the given index. -/
def matchesFrom (g : Grammar) (rule : Rule) (chain : List SuffixAnalysis) :
    Nat → List Alternative → Except UnknownName (List RuleMatch)
  | _, [] => .ok []
  | index, alternative :: rest => do
    g.checkReferences alternative
    let more ← g.matchesFrom rule chain (index + 1) rest
    return if accepts alternative chain then rule.matchAt index :: more else more

def matchesOfRules (g : Grammar) (chain : List SuffixAnalysis) :
    List Rule → Except UnknownName (List RuleMatch)
  | [] => .ok []
  | rule :: rest =>
    return (← g.matchesFrom rule chain 0 rule.alternatives) ++ (← g.matchesOfRules chain rest)

/-- All matches of a chain. A grammar that refers to a set it lacks matches nothing. -/
def matchesOf (g : Grammar) (chain : List SuffixAnalysis) : Except UnknownName (List RuleMatch) :=
  g.matchesOfRules chain g.allRules

/-- An analysis once for each of its matches, or as it is if it has none. -/
def annotate (g : Grammar) (a : Analysis) : Except UnknownName (List Analysis) := do
  match ← g.matchesOf a.suffixes with
  | [] => return [a]
  | found => return found.map fun m => { a with matched := some m }

def annotateAll (g : Grammar) : List Analysis → Except UnknownName (List Analysis)
  | [] => .ok []
  | a :: rest => return (← g.annotate a) ++ (← g.annotateAll rest)

/-- Analyses once for each of their matches, those that have one first, else by rank. -/
def byRules (g : Grammar) (analyses : List Analysis) : Except UnknownName (List Analysis) :=
  return (← g.annotateAll analyses).mergeSort Analysis.ahead

end Grammar

inductive AnalysisError where
  | search (error : SearchError)
  | unknown (name : UnknownName)
  deriving DecidableEq

/-- The segmentations of a word up to a limit, those that match a rule first, else by rank. -/
def analyzeByRules (g : Grammar) (limit : Option Int) (word : Text) :
    Except AnalysisError (List Analysis) :=
  match analyzeAll g limit word with
  | .error error => .error (.search error)
  | .ok analyses =>
    match g.byRules analyses with
    | .error name => .error (.unknown name)
    | .ok annotated => .ok annotated

end Morphotactics
