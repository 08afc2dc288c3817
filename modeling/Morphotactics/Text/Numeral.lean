import Morphotactics.Text.Numeric
import Morphotactics.Text.Quoted

/-! Integers spelled in decimal digits of any script, and digits in bases up to sixteen. -/
namespace Morphotactics

def isOctalDigit (c : Char) : Bool :=
  '0' ≤ c && c ≤ '7'

def isHexDigit (c : Char) : Bool :=
  c.isDigit || ('a' ≤ c && c ≤ 'f') || ('A' ≤ c && c ≤ 'F')

def digitValue (c : Char) : Nat :=
  if c.isDigit then c.toNat - '0'.toNat
  else if 'a' ≤ c then c.toNat - 'a'.toNat + 10
  else c.toNat - 'A'.toNat + 10

/-- The value of digits in a base. -/
def valueIn (base : Nat) (digits : Text) : Nat :=
  digits.foldl (fun value c => base * value + digitValue c) 0

inductive NumeralFault where
  | malformed (text : Text)
  | tooLong (digits : Nat)
  deriving DecidableEq

/-- The greatest number of digits, leading zeros included, that is read as an integer. -/
def maxDigits : Nat := 4300

/-- The message shows at most the first 200 characters of the quoted text. -/
def NumeralFault.message : NumeralFault → Text
  | .malformed text => "invalid literal for int() with base 10: ".toList ++ text.quoted.take 200
  | .tooLong digits =>
    "Exceeds the limit (4300 digits) for integer string conversion: value has ".toList ++
      Text.ofNat digits ++ " digits; use sys.set_int_max_str_digits() to increase the limit".toList

/-- Blanks that may surround a numeral: in a text of ASCII alone, the six of that set. -/
def isNumeralBlank (text : Text) (c : Char) : Bool :=
  if text.all (·.toNat < 0x80) then c = ' ' || (0x09 ≤ c.toNat && c.toNat ≤ 0x0d) else isBlank c

/-- Underscores stand alone and between digits. -/
def underscoresApart : Text → Bool
  | [] => true
  | [c] => c != '_'
  | '_' :: '_' :: _ => false
  | _ :: rest => underscoresApart rest

def digitsValue (digits : Text) : Nat :=
  (digits.filterMap decimalDigit?).foldl (fun value d => 10 * value + d) 0

/-- Reads an integer: blanks, a sign, digits with single underscores between them, blanks. -/
def readInteger (text : Text) : Except NumeralFault Int :=
  let body := text.dropWhile (isNumeralBlank text)
  let (negative, unsigned) := match body with
    | '-' :: rest => (true, rest)
    | '+' :: rest => (false, rest)
    | _ => (false, body)
  let isPart := fun c => isDecimal c || c = '_'
  let digits := unsigned.takeWhile isPart
  let rest := unsigned.dropWhile isPart
  let count := (digits.filter isDecimal).length
  if digits.head? = some '_' || !underscoresApart digits then .error (.malformed text)
  else if maxDigits < count then .error (.tooLong count)
  else if count = 0 || !rest.all (isNumeralBlank text) then .error (.malformed text)
  else
    let value := Int.ofNat (digitsValue digits)
    .ok (if negative then -value else value)

end Morphotactics
