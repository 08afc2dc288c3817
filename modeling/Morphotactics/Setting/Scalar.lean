import Morphotactics.Setting.Reader

/-! Numbers, dates and times. -/
namespace Morphotactics.Setting

open Reader

/-- Digits of a class, single underscores between them, split off a text. -/
def splitDigits (isMember : Char → Bool) : Text → Text × Text
  | [] => ([], [])
  | [c] => if isMember c then ([c], []) else ([], [c])
  | c :: d :: rest =>
    if isMember c then
      if d = '_' then
        match splitDigits isMember rest with
        | ([], _) => ([c], d :: rest)
        | (digits, left) => (c :: digits, left)
      else
        let (digits, left) := splitDigits isMember (d :: rest)
        (c :: digits, left)
    else ([], c :: d :: rest)

def splitFixed (count : Nat) (text : Text) : Option (Nat × Text) :=
  let digits := text.take count
  if digits.length = count && digits.all Char.isDigit then
    some (digitsValue digits, text.drop count)
  else none

def splitChar (isMember : Char → Bool) : Text → Option Text
  | [] => none
  | c :: rest => if isMember c then some rest else none

/-- What follows a time of day, with or without parts of a second. -/
def afterTime? (text : Text) : Option Text := do
  let (hour, text) ← splitFixed 2 text
  let text ← splitChar (· = ':') text
  let (minute, text) ← splitFixed 2 text
  let text ← splitChar (· = ':') text
  let (second, text) ← splitFixed 2 text
  if 23 < hour || 59 < minute || 59 < second then none
  match text with
  | '.' :: c :: rest => if c.isDigit then some (rest.dropWhile Char.isDigit) else some text
  | _ => some text

/-- What follows an offset from universal time. -/
def afterOffset (text : Text) : Text :=
  let offset : Option Text := do
    let text ← splitChar (fun c => c = '+' || c = '-') text
    let (hour, text) ← splitFixed 2 text
    let text ← splitChar (· = ':') text
    let (minute, text) ← splitFixed 2 text
    if 23 < hour || 59 < minute then none else some text
  (splitChar (fun c => c = 'Z' || c = 'z') text <|> offset).getD text

def daysOf (year month : Nat) : Nat :=
  if month = 2 then
    (if year % 4 = 0 && (year % 100 != 0 || year % 400 = 0) then 29 else 28)
  else if [4, 6, 9, 11].elem month then 30 else 31

/-- A date, which may go on with a time and an offset. The flag says that there is such a day. -/
def splitDate? (text : Text) : Option (Bool × MomentKind × Text) := do
  let (year, text) ← splitFixed 4 text
  let text ← splitChar (· = '-') text
  let (month, text) ← splitFixed 2 text
  let text ← splitChar (· = '-') text
  let (day, text) ← splitFixed 2 text
  if month = 0 || 12 < month || day = 0 || 31 < day then none
  let valid := 0 < year && day ≤ daysOf year month
  let time : Option Text := do afterTime? (← splitChar (fun c => ['T', 't', ' '].elem c) text)
  match time with
  | some rest => return (valid, .dateTime, afterOffset rest)
  | none => return (valid, .date, text)

/-- A part of a number that begins with a mark, and the text after it. -/
def splitPart (isMark : Char → Bool) (signed : Bool) (text : Text) : Text × Text :=
  match text with
  | mark :: rest =>
    if isMark mark then
      let (sign, rest) := match rest with
        | c :: after => if signed && (c = '+' || c = '-') then ([c], after) else ([], rest)
        | [] => ([], rest)
      match splitDigits Char.isDigit rest with
      | ([], _) => ([], text)
      | (digits, left) => (mark :: sign ++ digits, left)
    else ([], text)
  | [] => ([], text)

def splitBased? (text : Text) : Option (Nat × Text) :=
  let based (base : Nat) (isMember : Char → Bool) (rest : Text) : Option (Nat × Text) :=
    match splitDigits isMember rest with
    | ([], _) => none
    | (digits, left) =>
      some (valueIn base digits, left)
  match text with
  | '0' :: 'x' :: rest => based 16 isHexDigit rest
  | '0' :: 'b' :: rest => based 2 (fun c => c = '0' || c = '1') rest
  | '0' :: 'o' :: rest => based 8 isOctalDigit rest
  | _ => none

def readNumber : Reader Setting := do
  let text ← get
  let (sign, unsigned) := match text with
    | c :: rest => if c = '+' || c = '-' then ([c], rest) else ([], text)
    | [] => ([], text)
  let (whole, rest) := match unsigned with
    | '0' :: rest => (['0'], rest)
    | _ => splitDigits Char.isDigit unsigned
  if whole.isEmpty then
    if "inf".toList.isPrefixOf unsigned || "nan".toList.isPrefixOf unsigned then
      set (unsigned.drop 3)
      return .fraction (sign ++ unsigned.take 3)
    else fail
  let (decimals, rest) := splitPart (· = '.') false rest
  let (exponent, rest) := splitPart (fun c => c = 'e' || c = 'E') true rest
  set rest
  if decimals.isEmpty && exponent.isEmpty then
    match readInteger (sign ++ whole) with
    | .ok value => return .integer value
    | .error fault => throw (.numeral fault)
  else return .fraction (sign ++ whole ++ decimals ++ exponent)

def readScalar : Reader Setting := do
  let text ← get
  let spelled (rest : Text) : Text := text.take (text.length - rest.length)
  match splitDate? text, afterTime? text, splitBased? text with
  | some (valid, kind, rest), _, _ =>
    if !valid then fail
    set rest
    return .moment kind (spelled rest)
  | none, some rest, _ =>
    set rest
    return .moment .time (spelled rest)
  | none, none, some (value, rest) =>
    set rest
    return .integer value
  | none, none, none => readNumber

end Morphotactics.Setting
