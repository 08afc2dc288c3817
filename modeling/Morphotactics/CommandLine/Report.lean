import Morphotactics.Affix
import Morphotactics.Annotation
import Morphotactics.Grammar.Format

/-! What the command line prints, line by line. -/
namespace Morphotactics.CommandLine

def heading (title : Text) : Text :=
  "═══ ".toList ++ title ++ " ═══".toList

def described (description : Text) : Text :=
  if description.isEmpty then [] else ": \"".toList ++ description ++ ['"']

def shortened (id : Text) : Text :=
  id.take 8 ++ "...".toList

def definitionLine (d : SuffixDefinition) : Text :=
  let guard := match d.condition.kind with
    | .always => []
    | kind => " WHEN ".toList ++ kind.name
  "  ".toList ++ d.suffix ++ ": \"".toList ++ d.description ++ '"' :: guard

def setReport (set : SuffixSet) : List Text :=
  ("SUFFIX ".toList ++ set.name ++ described set.description) ::
    set.suffixes.values.map definitionLine ++ [[]]

def numbered {α : Type} (items : List α) : List (Nat × α) :=
  items.zipIdx.map fun (item, index) => (index + 1, item)

def blockReport (rule : Rule) : List Text :=
  ("  RULE ".toList ++ rule.name ++ described rule.description ++ " (ID: ".toList ++
    shortened rule.id ++ [')']) ::
    (numbered rule.alternatives).map fun (i, alternative) =>
      "   ".toList ++ Text.ofNat i ++ ": ".toList ++ Alternative.format alternative

def ruleReport (name : Text) (blocks : List Rule) : List Text :=
  ("Rule '".toList ++ name ++ "':".toList) :: blocks.flatMap blockReport ++ [[]]

def grammarReport (g : Grammar) : List Text :=
  heading "Suffix sets".toList :: g.sets.values.flatMap setReport ++
    heading "Rules".toList :: g.rules.entries.flatMap fun (name, blocks) => ruleReport name blocks

def variantReport (i : Nat) (a : Analysis) : List Text :=
  ("  Variant ".toList ++ Text.ofNat i ++ ": ".toList ++ a.format) ::
    a.suffixes.map fun s => "      +".toList ++ s.suffix ++ " (".toList ++ s.category ++
      ": ".toList ++ s.description ++ [')']

def analysisReport (word : Text) (analyses : List Analysis) : List Text :=
  heading ("Analysis of '".toList ++ word ++ ['\x27']) ::
    ("Found ".toList ++ Text.ofNat analyses.length ++ " segmentation(s)".toList) ::
    (numbered analyses).flatMap (fun (i, a) => variantReport i a) ++ [[]]

def validReport (i : Nat) (a : Analysis) (m : RuleMatch) : List Text :=
  let note := if m.description.isEmpty then [] else " - ".toList ++ m.description
  ["  ✓ Variant ".toList ++ Text.ofNat i ++ ": ".toList ++ a.format,
    "      Rule: ".toList ++ m.rule ++ note,
    "      Rule ID: ".toList ++ shortened m.id ++ "  Alternative: ".toList ++
      Text.ofNat (m.alternative + 1)]

/-- The segmentations of a word, those that match a rule and those that do not. -/
def rulesReport (word : Text) (analyses : List Analysis) : List Text :=
  let valid := analyses.filterMap fun a => a.matched.map fun m => (a, m)
  let others := analyses.filter (·.matched.isNone)
  heading ("Rule-based analysis of '".toList ++ word ++ ['\x27']) ::
    (if valid.isEmpty then [] else
      (Text.ofNat valid.length ++ " valid segmentation(s)".toList) ::
        (numbered valid).flatMap fun (i, a, m) => validReport i a m) ++
    (if others.isEmpty then [] else
      (Text.ofNat others.length ++ " segmentation(s) matching no rule".toList) ::
        others.map fun a => "  ✗ ".toList ++ a.format) ++ [[]]

def formsReport (rule root : Text) (forms : List Text) : List Text :=
  heading ("Forms of '".toList ++ root ++ "' by rule '".toList ++ rule ++ ['\x27']) ::
    forms.map ("  ".toList ++ ·) ++
    ["Generated ".toList ++ Text.ofNat forms.length ++ " form(s)".toList, []]

def affixReport (file : Text) (flags : FlagTable) : List Text :=
  ("Affix file written to ".toList ++ file) ::
    flags.entries.map (fun (name, flag) => "  ".toList ++ flag :: "  ".toList ++ name) ++ [[]]

end Morphotactics.CommandLine
