import Morphotactics.Pattern.Reader
import Morphotactics.Text.CharacterName

/-! Reading of escapes and of bracketed sets. -/
namespace Morphotactics.Pattern

open Reader

def isLatinLetter (c : Char) : Bool :=
  ('a' ≤ c && c ≤ 'z') || ('A' ≤ c && c ≤ 'Z')

def controlEscape? : Char → Option Nat
  | 'a' => some 0x07
  | 'b' => some 0x08
  | 'f' => some 0x0c
  | 'n' => some 0x0a
  | 'r' => some 0x0d
  | 't' => some 0x09
  | 'v' => some 0x0b
  | '\\' => some 0x5c
  | _ => none

def categoryEscape? : Char → Option Member
  | 'd' => some (.kind .digit false)
  | 'D' => some (.kind .digit true)
  | 's' => some (.kind .blank false)
  | 'S' => some (.kind .blank true)
  | 'w' => some (.kind .word false)
  | 'W' => some (.kind .word true)
  | _ => none

def anchorEscape? : Char → Option Anchor
  | 'A' => some .textStart
  | 'Z' => some .textEnd
  | 'b' => some .wordEdge
  | 'B' => some .wordInside
  | _ => none

def readHexEscape (letter : Char) (count : Nat) : Reader Nat := do
  let spelled ← takeWhile isHexDigit count
  let escape := '\\' :: letter :: spelled
  if spelled.length ≠ count then fail (.incompleteEscape escape) escape.length
  else if 0x10ffff < valueIn 16 spelled then fail (.badEscape escape) escape.length
  else return valueIn 16 spelled

def readNamedEscape : Reader Nat := do
  if ← accept '{' then
    let name ← takeUntil '}' "character name"
    match characterNamed? name with
    | some code => return code
    | none => fail (.unknownCharacter name) (name.length + 4)
  else fail .noCharacterName 0

/-- Escapes of a single code point that are the same inside and outside of sets. -/
def readCodeEscape (letter : Char) : Reader Nat := do
  if letter = 'x' then readHexEscape letter 2
  else if letter = 'u' then readHexEscape letter 4
  else if letter = 'U' then readHexEscape letter 8
  else if letter = 'N' then readNamedEscape
  else if isLatinLetter letter || letter.isDigit then fail (.badEscape ['\\', letter]) 2
  else return letter.toNat

def octalCode (spelled : Text) : Reader Nat := do
  if 0o377 < valueIn 8 spelled then
    fail (.octalTooLarge ('\\' :: spelled)) (spelled.length + 1)
  else return valueIn 8 spelled

def readSetEscape (letter : Char) : Reader Member := do
  match controlEscape? letter, categoryEscape? letter with
  | some code, _ => return .one code
  | none, some member => return member
  | none, none =>
    if isOctalDigit letter then return .one (← octalCode (letter :: (← takeWhile isOctalDigit 2)))
    else return .one (← readCodeEscape letter)

/-- A group can be referred to once it is closed. -/
def isClosed (s : Reading) (index : Nat) : Bool :=
  0 < index && ((s.widths[index - 1]?).join).isSome

/-- Inside a look-behind only groups closed before it can be referred to. -/
def checkLookBehind (index : Nat) : Reader Unit := do
  let s ← get
  match s.behind with
  | none => return ()
  | some before =>
    if !isClosed s index then fail .openGroup 0
    else if before < index then fail .groupOfSameLookBehind 0
    else return ()

/-- A reference to a group by its number, spelled in `back` characters. -/
def readReference (index back : Nat) : Reader Node := do
  let s ← get
  if s.widths.length < index then fail (.invalidGroup index) (back - 1)
  else if !isClosed s index then fail .openGroup back
  else
    checkLookBehind index
    return .again index

/-- One or two digits are a reference, three octal ones a code point. -/
def readDigitEscape (first : Char) : Reader Node := do
  match ← takeWhile Char.isDigit 1 with
  | [second] =>
    let third ← if isOctalDigit first && isOctalDigit second then takeWhile isOctalDigit 1 else pure []
    if third.isEmpty then readReference (valueIn 10 [first, second]) 3
    else return .one (← octalCode (first :: second :: third))
  | _ => readReference (valueIn 10 [first]) 2

def readEscape (letter : Char) : Reader Node := do
  match anchorEscape? letter, categoryEscape? letter, controlEscape? letter with
  | some place, _, _ => return .anchor place
  | none, some member, _ => return .set false [member]
  | none, none, some code => return .one code
  | none, none, none =>
    if letter = '0' then return .one (valueIn 8 (← takeWhile isOctalDigit 2))
    else if letter.isDigit then readDigitEscape letter
    else return .one (← readCodeEscape letter)

def readMember (p : Piece) : Reader Member := do
  if p.escaped then readSetEscape p.char else return .one p.char.toNat

/-- The rest of a bracketed set that opens at `start`. -/
def readMembers (start : Nat) : Nat → List Member → Reader (List Member)
  | 0, members => return members
  | n + 1, members => do
    match ← next with
    | none => throw (.positioned .unterminatedSet start)
    | some first =>
      if first.isBare ']' && !members.isEmpty then return members
      else
        let low ← readMember first
        if ← accept '-' then
          match ← next with
          | none => throw (.positioned .unterminatedSet start)
          | some last =>
            if last.isBare ']' then return members ++ [low, .one '-'.toNat]
            else
              let high ← readMember last
              let problem := Problem.badRange first.text last.text
              let back := first.text.length + 1 + last.text.length
              match low, high with
              | .one a, .one b =>
                if b < a then fail problem back
                else readMembers start n (members ++ [.span a b])
              | _, _ => fail problem back
        else readMembers start n (members ++ [low])

/-- A set of one character is that character. -/
def setOf (negated : Bool) (members : List Member) : Node :=
  match members.eraseDups with
  | [.one code] => if negated then .notOne code else .one code
  | distinct => .set negated distinct

def readSet (start : Nat) : Reader Node := do
  let negated ← accept '^'
  return setOf negated (← readMembers start ((← get).rest.length + 1) [])

end Morphotactics.Pattern
