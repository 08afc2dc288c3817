import Morphotactics.Grammar

/-! Affix files of spelling checkers, into which a grammar is written out. Every suffix set has a
flag of one character there. -/
namespace Morphotactics

/-- The flags in the order in which they are given out. -/
def flagAlphabet : List Char :=
  "ABCDEFGHIJKLMNOPQRSTUVWXYZabcdefghijklmnopqrstuvwxyz0123456789".toList

/-- The flags of suffix sets, in order of first use. -/
abbrev FlagTable := Table Char

/-- No flag is left for a set. -/
structure FlagsExhausted where
  name : Text
  deriving DecidableEq

def FlagsExhausted.message (e : FlagsExhausted) : Text :=
  "Cannot assign a flag to suffix set '".toList ++ e.name ++ "': all ".toList ++
    Text.ofNat flagAlphabet.length ++ " single-character flags are in use".toList

/-- Actions that give out flags. Flags that were given out before a failure stay. -/
abbrev Flagging := ExceptT FlagsExhausted (StateM FlagTable)

/-- The flag of a set; a set without one is given the next. -/
def flagFor (name : Text) : Flagging Char := do
  let flags ← get
  match flags.find? name with
  | some flag => return flag
  | none =>
    match flagAlphabet[flags.size]? with
    | some flag =>
      set (flags.insert name flag)
      return flag
    | none => throw ⟨name⟩

/-- What an affix file says of a suffix: how many characters to strip, what to append, where it
applies, and what it means. -/
structure AffixEntry where
  strip : Nat
  append : Text
  condition : Text
  setDescription : Text
  description : Text
  deriving DecidableEq

namespace AffixEntry

/-- A condition in the notation of affix files. A pattern is passed on as it is. -/
def conditionPattern (c : Condition) : Text :=
  match c.kind with
  | .endsWith | .startsWith => if c.usesPattern then c.pattern else bracketed c.characters
  | .isVowel => vowelClass none
  | .isConsonant => consonantClass none
  | .always => ['.']

/-- The entry of a suffix. A replacement at the end of the stem counts as one character. -/
def ofDefinition (d : SuffixDefinition) (setDescription : Text) : AffixEntry :=
  let c := d.condition
  let atEnd := c.replaces && c.kind = .endsWith
  { strip := if c.replaces then (if atEnd then 1 else 0) else c.cut.toNat
    append := if atEnd then c.replacement ++ d.suffix else d.suffix
    condition := conditionPattern c
    setDescription := setDescription
    description := d.description }

def render (e : AffixEntry) : Text :=
  Text.ofNat e.strip ++ ' ' :: e.append ++ ' ' :: e.condition ++ " # ".toList ++
    e.setDescription ++ ':' :: e.description

end AffixEntry

structure PatternFlag where
  flag : Char
  optional : Bool
  deriving DecidableEq

def PatternFlag.render (f : PatternFlag) : Text :=
  if f.optional then [f.flag, '?'] else [f.flag]

inductive AffixLine where
  | encoding
  | language (name : Text)
  | blank
  | header (flag : Char) (count : Nat)
  | entry (flag : Char) (entry : AffixEntry)
  | compoundCount (count : Nat)
  | ruleNote (name description : Text)
  | compound (pattern : List PatternFlag)
  deriving DecidableEq

def AffixLine.render : AffixLine → Text
  | .encoding => "SET UTF-8".toList
  | .language name => "LANG ".toList ++ name
  | .blank => []
  | .header flag count => "SFX ".toList ++ flag :: " Y ".toList ++ Text.ofNat count
  | .entry flag e => "SFX ".toList ++ flag :: ' ' :: e.render
  | .compoundCount count => "COMPOUNDRULE ".toList ++ Text.ofNat count
  | .ruleNote name description => "# Rule: ".toList ++ name ++ " - ".toList ++ description
  | .compound pattern => "COMPOUNDRULE ".toList ++ pattern.flatMap PatternFlag.render

def renderLines (lines : List AffixLine) : Text :=
  lines.flatMap fun line => line.render ++ ['\n']

/-- The lines of a suffix set. An empty set has a flag but no lines. -/
def suffixLines (set : SuffixSet) : Flagging (List AffixLine) := do
  let flag ← flagFor set.name
  let entries := set.suffixes.values.map fun d => AffixEntry.ofDefinition d set.description
  if entries.isEmpty then return []
  else return .header flag entries.length :: entries.map (.entry flag) ++ [.blank]

/-- The flag that an element adds to a pattern. Only sets and optional sets add one. -/
def elementFlag (element : Element) : Flagging (Option PatternFlag) := do
  match element with
  | .setRef name => return some ⟨← flagFor name, false⟩
  | .optional (.setRef name) => return some ⟨← flagFor name, true⟩
  | _ => return none

def alternativePattern : Alternative → Flagging (List PatternFlag)
  | [] => return []
  | element :: rest => do
    let flag ← elementFlag element
    return flag.toList ++ (← alternativePattern rest)

def alternativePatterns : List Alternative → Flagging (List (List PatternFlag))
  | [] => return []
  | alternative :: rest => do
    let pattern ← alternativePattern alternative
    let more ← alternativePatterns rest
    return if pattern.isEmpty then more else pattern :: more

def rulePatterns : List Rule → Flagging (List (Rule × List (List PatternFlag)))
  | [] => return []
  | rule :: rest => do
    let patterns ← alternativePatterns rule.alternatives
    let more ← rulePatterns rest
    return if patterns.isEmpty then more else (rule, patterns) :: more

def compoundLines (blocks : List (Rule × List (List PatternFlag))) : List AffixLine :=
  if blocks.isEmpty then []
  else .compoundCount (blocks.flatMap (·.2)).length :: blocks.flatMap fun block =>
    .ruleNote block.1.name block.1.description :: block.2.map .compound ++ [.blank]

def setLines : List SuffixSet → Flagging (List AffixLine)
  | [] => return []
  | set :: rest => do
    let lines ← suffixLines set
    return lines ++ (← setLines rest)

def Grammar.affixLines (g : Grammar) (language : Text) : Flagging (List AffixLine) := do
  let sets ← setLines g.sets.values
  let blocks ← rulePatterns g.allRules
  return [.encoding, .language language, .blank] ++ sets ++ compoundLines blocks

def Grammar.affixText (g : Grammar) (language : Text) : Flagging Text :=
  return renderLines (← g.affixLines language)

/-- Runs an action from flags that were given out, and gives those that are afterwards. -/
def Flagging.runFrom {α : Type} (action : Flagging α) (flags : FlagTable) :
    Except FlagsExhausted α × FlagTable :=
  (ExceptT.run action).run flags

end Morphotactics
