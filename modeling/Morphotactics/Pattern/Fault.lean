import Morphotactics.Text.Numeral

/-! Why a text is no regular expression. -/
namespace Morphotactics.Pattern

inductive Problem where
  | strayBackslash
  | badEscape (escape : Text)
  | incompleteEscape (escape : Text)
  | octalTooLarge (escape : Text)
  | noCharacterName
  | unknownCharacter (name : Text)
  | unterminatedSet
  | badRange (first last : Text)
  | nothingToRepeat
  | repeatedRepeat
  | leastAboveMost
  | patternEnds
  | unknownExtension (text : Text)
  | unterminatedGroup
  | unterminatedComment
  | unbalanced
  | missing (what : Text)
  | unterminatedName (mark : Char)
  | badGroupName (name : Text)
  | redefinedGroup (name : Text) (index earlier : Nat)
  | unknownGroup (name : Text)
  | badGroupNumber
  | invalidGroup (index : Nat)
  | openGroup
  | groupOfSameLookBehind
  | manyBranches
  | lateGlobalOptions
  | unknownOption
  | localeOption
  | rivalOptions
  | typeOptionOff
  | globalOptionOn
  | globalOptionOff
  | optionOnAndOff
  deriving DecidableEq

def Problem.message : Problem → Text
  | .strayBackslash => "bad escape (end of pattern)".toList
  | .badEscape escape => "bad escape ".toList ++ escape
  | .incompleteEscape escape => "incomplete escape ".toList ++ escape
  | .octalTooLarge escape =>
    "octal escape value ".toList ++ escape ++ " outside of range 0-0o377".toList
  | .noCharacterName => "missing \x7b".toList
  | .unknownCharacter name => "undefined character name ".toList ++ name.quoted
  | .unterminatedSet => "unterminated character set".toList
  | .badRange first last => "bad character range ".toList ++ first ++ '-' :: last
  | .nothingToRepeat => "nothing to repeat".toList
  | .repeatedRepeat => "multiple repeat".toList
  | .leastAboveMost => "min repeat greater than max repeat".toList
  | .patternEnds => "unexpected end of pattern".toList
  | .unknownExtension text => "unknown extension ?".toList ++ text
  | .unterminatedGroup => "missing ), unterminated subpattern".toList
  | .unterminatedComment => "missing ), unterminated comment".toList
  | .unbalanced => "unbalanced parenthesis".toList
  | .missing what => "missing ".toList ++ what
  | .unterminatedName mark => "missing ".toList ++ mark :: ", unterminated name".toList
  | .badGroupName name => "bad character in group name ".toList ++ name.quoted
  | .redefinedGroup name index earlier =>
    "redefinition of group name ".toList ++ name.quoted ++ " as group ".toList ++
      Text.ofNat index ++ "; was group ".toList ++ Text.ofNat earlier
  | .unknownGroup name => "unknown group name ".toList ++ name.quoted
  | .badGroupNumber => "bad group number".toList
  | .invalidGroup index => "invalid group reference ".toList ++ Text.ofNat index
  | .openGroup => "cannot refer to an open group".toList
  | .groupOfSameLookBehind =>
    "cannot refer to group defined in the same lookbehind subpattern".toList
  | .manyBranches => "conditional backref with more than two branches".toList
  | .lateGlobalOptions => "global flags not at the start of the expression".toList
  | .unknownOption => "unknown flag".toList
  | .localeOption => "bad inline flags: cannot use 'L' flag with a str pattern".toList
  | .rivalOptions => "bad inline flags: flags 'a', 'u' and 'L' are incompatible".toList
  | .typeOptionOff => "bad inline flags: cannot turn off flags 'a', 'u' and 'L'".toList
  | .globalOptionOn => "bad inline flags: cannot turn on global flag".toList
  | .globalOptionOff => "bad inline flags: cannot turn off global flag".toList
  | .optionOnAndOff => "bad inline flags: flag turned on and off".toList

/-- A text that is no regular expression, or one whose numbers are out of bounds. -/
inductive Fault where
  | positioned (problem : Problem) (position : Nat)
  | variableLookBehind
  | farLookBehind
  | repetitionTooLarge
  | numeral (fault : NumeralFault)
  deriving DecidableEq

def lineAndColumn (text : Text) (offset : Nat) : Nat × Nat :=
  let lead := text.take offset
  (lead.count '\n' + 1, (lead.reverse.takeWhile (· != '\n')).length + 1)

/-- The wording of a fault in a pattern; line and column are given where the pattern has several. -/
def Fault.message (pattern : Text) : Fault → Text
  | .positioned problem position =>
    let shown := problem.message ++ " at position ".toList ++ Text.ofNat position
    if pattern.elem '\n' then
      let place := lineAndColumn pattern position
      shown ++ " (line ".toList ++ Text.ofNat place.1 ++ ", column ".toList ++
        Text.ofNat place.2 ++ [')']
    else shown
  | .variableLookBehind => "look-behind requires fixed-width pattern".toList
  | .farLookBehind => "looks too much behind".toList
  | .repetitionTooLarge => "the repetition number is too large".toList
  | .numeral fault => fault.message

end Morphotactics.Pattern
