import Morphotactics.Setting.Reader

/-! Texts in quotation marks, and keys. -/
namespace Morphotactics.Setting

open Reader

def readHexChar (count : Nat) : Reader Text := do
  let text ← get
  let digits := text.take count
  if digits.length ≠ count || !digits.all isHexDigit then fail
  set (text.drop count)
  let code := valueIn 16 digits
  if code < 0xd800 || (0xe000 ≤ code && code ≤ 0x10ffff) then return [Char.ofNat code] else fail

/-- What stands after a backslash; a backslash at the end of a line joins the lines. -/
def readEscape (multiline : Bool) : Reader Text := do
  match ← get with
  | [] => fail
  | c :: rest =>
    if multiline && (isSpace c || c = '\n') then
      skipSpace
      match ← get with
      | [] => return []
      | d :: _ =>
        if d != '\n' then fail
        let _ ← takeWhile fun c => isSpace c || c = '\n'
        return []
    set rest
    match c with
    | 'b' => return ['\x08']
    | 't' => return ['\t']
    | 'n' => return ['\n']
    | 'f' => return ['\x0c']
    | 'r' => return ['\r']
    | '"' => return ['"']
    | '\\' => return ['\\']
    | 'u' => readHexChar 4
    | 'U' => readHexChar 8
    | _ => fail

def readBasic (multiline : Bool) : Nat → Reader Text
  | 0 => fail
  | n + 1 => do
    let text ← get
    match text with
    | [] => fail
    | '"' :: rest =>
      if !multiline then
        set rest
        return []
      else if ← accept ['"', '"', '"'] then return []
      else
        set rest
        return '"' :: (← readBasic multiline n)
    | '\\' :: rest =>
      set rest
      let escaped ← readEscape multiline
      return escaped ++ (← readBasic multiline n)
    | c :: rest =>
      if isControl c && !(multiline && c = '\n') then fail
      set rest
      return c :: (← readBasic multiline n)

def readLiteral (multiline : Bool) : Nat → Reader Text
  | 0 => fail
  | n + 1 => do
    if ← accept (List.replicate (if multiline then 3 else 1) '\x27') then return []
    match ← get with
    | [] => fail
    | c :: rest =>
      if isControl c && !(multiline && c = '\n') then fail
      set rest
      return c :: (← readLiteral multiline n)

/-- A text of several lines. Its last one or two characters may be quotation marks themselves. -/
def readMultiline (mark : Char) (size : Nat) : Reader Text := do
  let _ ← accept ['\n']
  let text ← if mark = '"' then readBasic true size else readLiteral true size
  if ← accept [mark, mark] then return text ++ [mark, mark]
  else if ← accept [mark] then return text ++ [mark]
  else return text

def isKeyChar (c : Char) : Bool :=
  c.isAlphanum || c = '-' || c = '_'

def readKeyPart (size : Nat) : Reader Text := do
  if ← accept ['"'] then readBasic false size
  else if ← accept ['\x27'] then readLiteral false size
  else
    let key ← takeWhile isKeyChar
    if key.isEmpty then fail else return key

/-- A key with points between its parts, and the blanks after it. -/
def readKey (size : Nat) : Nat → Reader (List Text)
  | 0 => fail
  | n + 1 => do
    let part ← readKeyPart size
    skipSpace
    if ← accept ['.'] then
      skipSpace
      return part :: (← readKey size n)
    else return [part]

end Morphotactics.Setting
