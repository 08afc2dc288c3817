import Morphotactics.Grammar

/-! Grammars shown as text. -/
namespace Morphotactics

/-- An element in the notation of grammars. Quotes inside of descriptions are left as they are. -/
def Element.format : Element → Text
  | .literal text => text
  | .glossed glosses =>
    let entry := fun (e : Text × Text) => e.1 ++ ':' :: '"' :: e.2 ++ ['"']
    '\x7b' :: List.intercalate ", ".toList (glosses.entries.map entry) ++ ['\x7d']
  | .optional child => '[' :: child.format ++ [']']
  | .setRef name => '@' :: name

def Alternative.format (alternative : Alternative) : Text :=
  List.intercalate " + ".toList (alternative.map Element.format)

/-- The sizes of a grammar in one phrase, the last of them without its noun. -/
def Grammar.counts (g : Grammar) : Text :=
  Text.ofNat g.sets.size ++ " suffix sets, ".toList ++ Text.ofNat g.suffixCount ++
    " suffixes, ".toList ++ Text.ofNat g.rules.size

def Grammar.summary (g : Grammar) : List Text :=
  let line := fun (label : String) (count : Nat) => label.toList ++ Text.ofNat count
  [line "Suffix sets:    " g.sets.size,
    line "Suffixes:       " g.suffixCount,
    line "Rule names:     " g.rules.size,
    line "Rule blocks:    " g.allRules.length,
    line "Alternatives:   " (g.allRules.flatMap (·.alternatives)).length]

end Morphotactics
