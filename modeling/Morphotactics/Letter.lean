import Morphotactics.Text
import Morphotactics.Text.LetterCase
import Morphotactics.Text.Numeric

/-! Vowels and consonants of the two scripts, and the characters of identifiers. -/
namespace Morphotactics

inductive Script where
  | cyrillic
  | latin
  deriving DecidableEq

def Script.name : Script → Text
  | .cyrillic => "cyrillic".toList
  | .latin => "latin".toList

def Script.vowels : Script → List Char
  | .cyrillic => ['а', 'е', 'и', 'о', 'у', 'э', 'ю', 'я', 'ё', 'ў']
  | .latin => ['a', 'e', 'i', 'o', 'u']

/-- The consonants of a script, by code point. A letter of two characters is none of its own. -/
def Script.consonants : Script → List Char
  | .cyrillic =>
    ['б', 'в', 'г', 'д', 'ж', 'з', 'й', 'к', 'л', 'м', 'н', 'п', 'р', 'с', 'т', 'ф', 'х', 'ц',
      'ч', 'ш', 'щ', 'ъ', 'ь', 'ғ', 'қ', 'ҳ']
  | .latin =>
    ['b', 'c', 'd', 'f', 'g', 'h', 'j', 'k', 'l', 'm', 'n', 'p', 'q', 'r', 's', 't', 'v', 'x',
      'y', 'z']

def Script.ofName? (name : Text) : Option Script :=
  [Script.cyrillic, .latin].find? (·.name = name)

/-- The vowels of both scripts, by code point. -/
def vowels : List Char := Script.latin.vowels ++ Script.cyrillic.vowels

def consonants : List Char := Script.latin.consonants ++ Script.cyrillic.consonants

/-- A vowel of either script in either case. -/
def isVowel (c : Char) : Bool :=
  vowels.any fun v => lowerChar c = [v]

def isConsonant (c : Char) : Bool :=
  consonants.any fun v => lowerChar c = [v]

def bracketed (letters : List Char) : Text :=
  '[' :: letters ++ [']']

/-- The vowels of a script, or of both, as a bracket expression. -/
def vowelClass (script : Option Script) : Text :=
  bracketed ((script.map Script.vowels).getD vowels)

def consonantClass (script : Option Script) : Text :=
  bracketed ((script.map Script.consonants).getD consonants)

def isIdentifierChar (c : Char) : Bool :=
  isAlphanumeric c || c = '_'

/-- An identifier begins with a letter or an underscore, or with a hyphen before a letter. -/
def startsIdentifier : Text → Bool
  | [] => false
  | c :: rest => isAlpha c || c = '_' || (c = '-' && rest.head?.any isAlpha)

end Morphotactics
