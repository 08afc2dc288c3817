import Morphotactics.Condition
import Morphotactics.Table

/-! Suffix grammars: named sets of suffixes, and rules that say which sets follow one another. -/
namespace Morphotactics

structure SuffixDefinition where
  suffix : Text
  description : Text
  condition : Condition := {}
  deriving DecidableEq

/-- A named group of suffixes that can stand for one another: one grammatical category. -/
structure SuffixSet where
  name : Text
  description : Text
  suffixes : Table SuffixDefinition
  deriving DecidableEq

inductive Element where
  /-- Fixed text; a text with commas lists several. -/
  | literal (text : Text)
  /-- Suffixes with what they mean. -/
  | glossed (glosses : Table Text)
  | optional (child : Element)
  /-- Any suffix of a named set. -/
  | setRef (name : Text)
  deriving DecidableEq

/-- A sequence of elements, read from the root outward. -/
abbrev Alternative := List Element

/-- A rule block. Blocks are numbered in the order in which they are completed. -/
structure Rule where
  name : Text
  description : Text
  alternatives : List Alternative
  serial : Nat
  deriving DecidableEq

def Rule.id (rule : Rule) : Text :=
  Text.hex 8 rule.serial ++ "-0000-4000-8000-000000000000".toList

def Rule.shortId (rule : Rule) : Text :=
  rule.id.take 8

structure Grammar where
  sets : Table SuffixSet
  rules : Table (List Rule)
  deriving DecidableEq

inductive UnknownName where
  | suffixSet (name : Text)
  | rule (name : Text)
  deriving DecidableEq

namespace UnknownName

def kind : UnknownName → Text
  | .suffixSet _ => "suffix set".toList
  | .rule _ => "rule".toList

def name : UnknownName → Text
  | .suffixSet name | .rule name => name

def message (unknown : UnknownName) : Text :=
  "No ".toList ++ unknown.kind ++ " named '".toList ++ unknown.name ++ ['\x27']

end UnknownName

namespace Grammar

/-- A suffix definition together with the set that owns it. -/
abbrev OwnedSuffix := SuffixSet × SuffixDefinition

def empty : Grammar := ⟨.empty, .empty⟩

def suffixSet (g : Grammar) (name : Text) : Except UnknownName SuffixSet :=
  match g.sets.find? name with
  | some set => .ok set
  | none => .error (.suffixSet name)

def rulesNamed (g : Grammar) (name : Text) : Except UnknownName (List Rule) :=
  match g.rules.find? name with
  | some rules => .ok rules
  | none => .error (.rule name)

def suffixes (g : Grammar) : List OwnedSuffix :=
  g.sets.values.flatMap fun set => set.suffixes.values.map fun definition => (set, definition)

/-- Every rule block, by name in order of first appearance. -/
def allRules (g : Grammar) : List Rule :=
  g.rules.values.flatten

def suffixCount (g : Grammar) : Nat :=
  g.suffixes.length

end Grammar

def literalOptions (text : Text) : List Text :=
  if text.elem ',' then (Text.splitOn ',' text).map Text.strip else [text]

/-- The set names in an element, under any number of options. -/
def Element.reference? : Element → Option Text
  | .setRef name => some name
  | .optional child => child.reference?
  | .literal _ | .glossed _ => none

end Morphotactics
