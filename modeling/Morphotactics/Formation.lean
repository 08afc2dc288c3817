import Morphotactics.Grammar

/-! Forms that the rules of a grammar build from a root. -/
namespace Morphotactics

inductive FormationError where
  | unknown (name : UnknownName)
  | pattern (error : Pattern.Invalid)
  deriving DecidableEq

/-- The forms that suffixes give a word, in their order. A suffix gives one if its condition holds
of the word. -/
def suffixForms (word : Text) : List SuffixDefinition → Except Pattern.Invalid (List Text)
  | [] => .ok []
  | d :: rest => do
    if ← d.condition.holds word then
      let stem ← d.condition.apply word
      return (stem ++ d.suffix) :: (← suffixForms word rest)
    else suffixForms word rest

namespace Grammar

def elementForms (g : Grammar) (word : Text) : Element → Except FormationError (List Text)
  | .literal text => .ok ((literalOptions text).map (word ++ ·))
  | .optional child => return word :: (← g.elementForms word child)
  | .setRef name =>
    match g.suffixSet name with
    | .error unknown => .error (.unknown unknown)
    | .ok set =>
      match suffixForms word set.suffixes.values with
      | .error error => .error (.pattern error)
      | .ok forms => .ok forms
  | .glossed _ => .ok [word]

/-- The forms that an element makes of several words, word by word. -/
def elementFormsOfAll (g : Grammar) (element : Element) :
    List Text → Except FormationError (List Text)
  | [] => .ok []
  | word :: rest =>
    return (← g.elementForms word element) ++ (← g.elementFormsOfAll element rest)

/-- The forms that an alternative makes of several words, element by element. -/
def alternativeForms (g : Grammar) : Alternative → List Text → Except FormationError (List Text)
  | [], words => .ok words
  | element :: rest, words => do g.alternativeForms rest (← g.elementFormsOfAll element words)

def formsOfAll (g : Grammar) (root : Text) :
    List Alternative → Except FormationError (List Text)
  | [] => .ok []
  | alternative :: rest =>
    return (← g.alternativeForms alternative [root]) ++ (← g.formsOfAll root rest)

/-- The distinct forms that all rule blocks of a name make of a root. -/
def forms (g : Grammar) (rule root : Text) : Except FormationError (List Text) :=
  match g.rulesNamed rule with
  | .error unknown => .error (.unknown unknown)
  | .ok rules => return (← g.formsOfAll root (rules.flatMap (·.alternatives))).eraseDups

end Grammar

end Morphotactics
