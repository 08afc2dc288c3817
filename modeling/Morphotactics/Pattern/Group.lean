import Morphotactics.Pattern.Escape
import Morphotactics.Pattern.GroupName

/-! Reading of what opens a group: options, names, conditions and comments. -/
namespace Morphotactics.Pattern

open Reader

def isOptionLetter (c : Char) : Bool :=
  "iLmsxatu".toList.elem c

def Options.ofLetters (letters : List Char) : Options :=
  ⟨letters.elem 'i', letters.elem 'm', letters.elem 's', letters.elem 'x', letters.elem 'a',
    letters.elem 'u'⟩

/-- A piece that ought to be an option letter, or one of the marks that may follow a letter. -/
def readOptionPiece (marks : List Char) (missing : String) : Reader Char := do
  match ← next with
  | none => fail (.missing missing.toList) 0
  | some p =>
    if !p.escaped && (marks.elem p.char || isOptionLetter p.char) then return p.char
    else if !p.escaped && isAlpha p.char then fail .unknownOption 1
    else fail (.missing missing.toList) p.text.length

def readOptionsOn : Nat → Char → List Char → Reader (List Char × Char)
  | 0, letter, letters => return (letter :: letters, ')')
  | n + 1, letter, letters => do
    if letter = 'L' then fail .localeOption 0
    if (letter = 'a' && letters.elem 'u') || (letter = 'u' && letters.elem 'a') then
      fail .rivalOptions 0
    let c ← readOptionPiece [')', '-', ':'] "-, : or )"
    if isOptionLetter c then readOptionsOn n c (letter :: letters)
    else return (letter :: letters, c)

def readOptionsOff : Nat → Char → List Char → Reader (List Char)
  | 0, letter, letters => return letter :: letters
  | n + 1, letter, letters => do
    if ['a', 'u', 'L'].elem letter then fail .typeOptionOff 0
    let c ← readOptionPiece [':'] ":"
    if c = ':' then return letter :: letters
    else readOptionsOff n c (letter :: letters)

/-- Options from their first character to the colon; options for the whole pattern come too late. -/
def readOptions (start : Nat) (first : Char) : Reader OptionChange := do
  let size := (← get).rest.length + 1
  let (on, mark) ← if first = '-' then pure ([], '-') else readOptionsOn size first []
  if mark = ')' then throw (.positioned .lateGlobalOptions start)
  if on.elem 't' then fail .globalOptionOn 1
  let off ← if mark = '-' then do
      let c ← readOptionPiece [] "flag"
      readOptionsOff size c []
    else pure []
  if off.elem 't' then fail .globalOptionOff 1
  if on.any (off.elem ·) then fail .optionOnAndOff 1
  return ⟨.ofLetters on, .ofLetters off⟩

def openGroup (name : Option Text) : Reader Nat := do
  let s ← get
  let index := s.widths.length + 1
  let names ← match name with
    | none => pure s.names
    | some name =>
      match s.names.lookup name with
      | some earlier => fail (.redefinedGroup name index earlier) (name.length + 1)
      | none => pure (s.names ++ [(name, index)])
  set { s with widths := s.widths ++ [none], names := names }
  return index

def closeGroup (index : Nat) (body : Node) : Reader Unit :=
  modify fun s => { s with widths := s.widths.set (index - 1) (some (body.width s.widths)) }

def readGroupName (mark : Char) : Reader Text := do
  let name ← takeUntil mark "group name"
  if isGroupName name then return name else fail (.badGroupName name) (name.length + 1)

def readNamedReference : Reader Node := do
  let name ← readGroupName ')'
  let s ← get
  match s.names.lookup name with
  | none => fail (.unknownGroup name) (name.length + 1)
  | some index =>
    if !isClosed s index then fail .openGroup (name.length + 1)
    checkLookBehind index
    return .again index

/-- The bound above which no number can be that of a group. -/
def maxGroups : Nat := 2147483647

def readConditionGroup : Reader Nat := do
  let name ← takeUntil ')' "group name"
  let back := name.length + 1
  if isGroupName name then
    match (← get).names.lookup name with
    | none => fail (.unknownGroup name) back
    | some index => return index
  else
    match readInteger name with
    | .error _ | .ok (.negSucc _) => fail (.badGroupName name) back
    | .ok (.ofNat index) =>
      if index = 0 then fail .badGroupNumber back
      if maxGroups ≤ index then fail (.invalidGroup index) back
      let position := (← tell) - back
      modify fun s =>
        if (s.awaited.lookup index).isSome then s
        else { s with awaited := s.awaited ++ [(index, position)] }
      return index

def skipComment (start : Nat) : Nat → Reader Unit
  | 0 => return ()
  | n + 1 => do
    match ← next with
    | none => throw (.positioned .unterminatedComment start)
    | some p => if p.isBare ')' then return () else skipComment start n

def skipLine : Nat → Reader Unit
  | 0 => return ()
  | n + 1 => do
    match ← next with
    | none => return ()
    | some p => if p.isBare '\n' then return () else skipLine n

def closeParenthesis (start : Nat) : Reader Unit := do
  if ← accept ')' then return () else throw (.positioned .unterminatedGroup start)

end Morphotactics.Pattern
