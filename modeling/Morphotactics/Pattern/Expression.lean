import Morphotactics.Pattern.Choice
import Morphotactics.Pattern.Group
import Morphotactics.Pattern.Repetition

/-! Reading of whole regular expressions. -/
namespace Morphotactics.Pattern

open Reader

/-- Blanks that are skipped where patterns are written with blanks and comments. -/
def isSkipped (c : Char) : Bool :=
  c = ' ' || (0x09 ≤ c.toNat && c.toNat ≤ 0x0d)

mutual

/-- Alternatives up to a closing parenthesis or the end. The first argument bounds the depth. -/
def readAlternatives : Nat → Bool → Reader (List (List Node))
  | 0, _ => return [[]]
  | n + 1, verbose => do
    let first ← readSequence n verbose []
    if ← accept '|' then return first :: (← readAlternatives n verbose)
    else return [first]

/-- Items up to a bar, a closing parenthesis or the end, after those read so far in reverse. -/
def readSequence : Nat → Bool → List Node → Reader (List Node)
  | 0, _, items => return items.reverse.flatMap Node.unpacked
  | n + 1, verbose, items => do
    let start ← tell
    match ← peek with
    | none => return items.reverse.flatMap Node.unpacked
    | some p =>
      if p.isBare '|' || p.isBare ')' then return items.reverse.flatMap Node.unpacked
      let _ ← next
      if p.escaped then readSequence n verbose ((← readEscape p.char) :: items)
      else if verbose && isSkipped p.char then readSequence n verbose items
      else if verbose && p.char = '#' then
        skipLine ((← get).rest.length + 1)
        readSequence n verbose items
      else match p.char with
        | '[' => readSequence n verbose ((← readSet start) :: items)
        | '?' => readSequence n verbose (← readRepeat start 0 (some 1) items)
        | '*' => readSequence n verbose (← readRepeat start 0 none items)
        | '+' => readSequence n verbose (← readRepeat start 1 none items)
        | '\x7b' =>
          match ← readBounds with
          | some (least, most) => readSequence n verbose (← readRepeat start least most items)
          | none => readSequence n verbose (.one p.char.toNat :: items)
        | '.' => readSequence n verbose (.any :: items)
        | '^' => readSequence n verbose (.anchor .lineStart :: items)
        | '$' => readSequence n verbose (.anchor .lineEnd :: items)
        | '(' =>
          match ← readParenthesis n verbose start with
          | some item => readSequence n verbose (item :: items)
          | none => readSequence n verbose items
        | c => readSequence n verbose (.one c.toNat :: items)

/-- What a parenthesis at `start` opens; a comment is no item. -/
def readParenthesis : Nat → Bool → Nat → Reader (Option Node)
  | 0, _, _ => return none
  | n + 1, verbose, start => do
    if !(← accept '?') then return some (← readCapture n verbose start none)
    match ← next with
    | none => fail .patternEnds 0
    | some p =>
      if p.escaped then fail (.unknownExtension p.text) 3
      match p.char with
      | 'P' =>
        if ← accept '<' then
          return some (← readCapture n verbose start (some (← readGroupName '>')))
        else if ← accept '=' then return some (← readNamedReference)
        else match ← next with
          | none => fail .patternEnds 0
          | some q => fail (.unknownExtension ('P' :: q.text)) (q.text.length + 2)
      | ':' => return some (.group none {} (← readBody n verbose start))
      | '>' => return some (.atomic (← readBody n verbose start))
      | '=' => return some (.lookAhead true (← readBody n verbose start))
      | '!' => return some (.lookAhead false (← readBody n verbose start))
      | '#' =>
        skipComment start ((← get).rest.length + 1)
        return none
      | '<' =>
        match ← next with
        | none => fail .patternEnds 0
        | some q =>
          if q.isBare '=' || q.isBare '!' then
            let before := (← get).behind
            modify fun s => { s with behind := some (before.getD s.widths.length) }
            let body := Node.ofItems (choice (← readAlternatives n verbose))
            modify fun s => { s with behind := before }
            closeParenthesis start
            return some (.lookBehind (q.char = '=') (body.width (← get).widths) body)
          else fail (.unknownExtension ('<' :: q.text)) (q.text.length + 2)
      | '(' =>
        let index ← readConditionGroup
        checkLookBehind index
        let present ← readSequence n verbose []
        let absent ← if ← accept '|' then
            let absent ← readSequence n verbose []
            if ((← peek).map (·.isBare '|')).getD false then fail .manyBranches 0
            pure absent
          else pure []
        closeParenthesis start
        return some (.ifGroup index (.ofItems present) (.ofItems absent))
      | c =>
        if c = '-' || isOptionLetter c then
          let change ← readOptions start c
          let inner := (verbose || change.on.verbose) && !change.off.verbose
          return some (.group none change (← readBody n inner start))
        else fail (.unknownExtension [c]) 2

def readBody : Nat → Bool → Nat → Reader Node
  | 0, _, _ => return .empty
  | n + 1, verbose, start => do
    let body := Node.ofItems (choice (← readAlternatives n verbose))
    closeParenthesis start
    return body

def readCapture : Nat → Bool → Nat → Option Text → Reader Node
  | 0, _, _, _ => return .empty
  | n + 1, verbose, start, name => do
    let index ← openGroup name
    let body ← readBody n verbose start
    closeGroup index body
    return .group (some index) {} body

end

/-- Every group that a condition asks for has to be there in the end. -/
def checkAwaited : Reader Unit := do
  let s ← get
  match s.awaited.find? fun a => s.widths.length < a.1 with
  | some (index, position) => throw (.positioned (.invalidGroup index) position)
  | none => return ()

def maxLookBehind : Nat := 4294967295

/-- A look-behind has to know how far to go back. -/
def Node.checkLookBehinds : Node → Except Fault Unit
  | .empty | .one _ | .notOne _ | .any | .set _ _ | .anchor _ | .again _ => .ok ()
  | .seq first rest | .either first rest | .ifGroup _ first rest => do
    first.checkLookBehinds
    rest.checkLookBehinds
  | .group _ _ body | .atomic body | .repeated _ _ _ body | .lookAhead _ body =>
    body.checkLookBehinds
  | .lookBehind _ width body => do
    if maxLookBehind < width.least then throw .farLookBehind
    if width.most ≠ some width.least then throw .variableLookBehind
    body.checkLookBehinds

/-- A whole pattern; a closing parenthesis that closes nothing is left over. -/
def readWhole (size : Nat) : Reader Node := do
  let body := Node.ofItems (choice (← readAlternatives size false))
  if (← peek).isSome then fail .unbalanced 0
  checkAwaited
  return body

/-- Reads a regular expression. Each piece leads at most five calls deeper. -/
def Node.read (pattern : Text) : Except Fault Node := do
  let ps ← pieces 0 pattern
  let (body, _) ← (readWhole (5 * ps.length + 5)).run { rest := ps, finish := pattern.length }
  body.checkLookBehinds
  return body

end Morphotactics.Pattern
