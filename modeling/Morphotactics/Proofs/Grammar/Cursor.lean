import Morphotactics.Grammar.Loading

/-! A walk over tokens with a cursor. The cursor goes on by one token at a time, and stands still
where a token is only looked at. A number bounds the passes of each loop and the depth of brackets.
A walk that would go beyond it is unfinished. -/
namespace Morphotactics

structure Walk where
  place : Nat
  /-- Every place at which the cursor has stood. -/
  stood : List Nat
  /-- Where a pass of a loop began and ended, if another pass of the loop has followed. -/
  passes : List (Nat × Nat)
  /-- Where an element began and ended. -/
  elements : List (Nat × Nat)
  deriving DecidableEq

namespace Walk

def start : Walk := ⟨0, [0], [], []⟩

def advance (w : Walk) : Walk :=
  { w with place := w.place + 1, stood := (w.place + 1) :: w.stood }

def notePass (w : Walk) (begun : Nat) : Walk :=
  { w with passes := (begun, w.place) :: w.passes }

def noteElement (w : Walk) (begun : Nat) : Walk :=
  { w with elements := (begun, w.place) :: w.elements }

end Walk

/-- What moves the cursor. It may fail, and it may be unfinished. -/
abbrev Walker := ExceptT ParseError (StateT Walk Option)

namespace Walker

variable {α β : Type}

/-- The result of a walk that has begun, and the walk at its end. -/
def walk (walker : Walker α) (w : Walk) : Option (Except ParseError α × Walk) :=
  walker.run.run w

def unfinished : Walker α :=
  ExceptT.mk fun _ => none

/-- A loop. Each of its passes says whether it is followed by another. -/
def loop (pass : Walker (β × Bool)) : (bound : Nat) → Walker (List β)
  | 0 => unfinished
  | n + 1 => do
    let w ← getThe Walk
    let (b, again) ← pass
    if again then
      modifyThe Walk (·.notePass w.place)
      let more ← loop pass n
      return b :: more
    else return [b]

/-- A loop that asks before each of its passes. -/
def loopWhile (asked : Walker Bool) (pass : Walker β) (bound : Nat) : Walker (List β) := do
  if ← asked then loop (do let b ← pass; return (b, ← asked)) bound else return []

variable (ts : Tokens) (bound : Nat)

/-- The token at the cursor. Behind the last token there is the last one. -/
def current : Walker Token := do
  let w ← getThe Walk
  return ts.getD (min w.place (ts.length - 1)) ⟨.eof, [], .start⟩

def at? (kind : TokenKind) : Walker Bool := do
  let t ← current ts
  return t.kind = kind

def fail (expected : Expected) : Walker α := do
  let t ← current ts
  throw (.unexpected expected t.kind t.position)

def consume (kind : TokenKind) : Walker Text := do
  let t ← current ts
  if t.kind = kind then
    modifyThe Walk (·.advance)
    return t.text
  else fail ts (.kind kind)

section Definitions

def operand (kind : ConditionKind) : Walker Condition := do
  if ← at? ts .literalSet then
    let characters ← consume ts .literalSet
    return { kind, characters }
  else if ← at? ts .pattern then
    let pattern ← consume ts .pattern
    return { kind, pattern }
  else fail ts .operand

def guard : Walker Condition := do
  let t ← current ts
  match t.kind with
  | .endsWith => do
    let _ ← consume ts .endsWith
    operand ts .endsWith
  | .startsWith => do
    let _ ← consume ts .startsWith
    operand ts .startsWith
  | .isVowel => do
    let _ ← consume ts .isVowel
    return { kind := .isVowel }
  | .isConsonant => do
    let _ ← consume ts .isConsonant
    return { kind := .isConsonant }
  | _ => return {}

def change (condition : Condition) : Walker Condition := do
  if ← at? ts .cut then
    let _ ← consume ts .cut
    let spelled ← consume ts .number
    match readInteger spelled with
    | .ok cut => return { condition with cut }
    | .error fault => throw (.numeral fault)
  else if ← at? ts .replace then
    let _ ← consume ts .replace
    let replacement ← consume ts .string
    return { condition with replacement }
  else return condition

def condition : Walker Condition := do
  if ← at? ts .when then
    let _ ← consume ts .when
    let asked ← guard ts
    change ts asked
  else return {}

def gloss : Walker (Text × Text) := do
  let key ← consume ts .identifier
  let _ ← consume ts .colon
  let gloss ← consume ts .string
  return (key, gloss)

def definition : Walker SuffixDefinition := do
  let (suffix, description) ← gloss ts
  let asked ← condition ts
  return ⟨suffix, description, asked⟩

def definitions : Walker (List SuffixDefinition) :=
  loopWhile (return !(← at? ts .rightBrace)) listed bound
where
  listed : Walker SuffixDefinition := do
    let d ← definition ts
    if ← at? ts .comma then
      let _ ← consume ts .comma
      return d
    else if ← at? ts .rightBrace then return d
    else fail ts .definitionEnd

end Definitions

section Alternatives

def glosses : Walker (List (Text × Text)) :=
  loop listed bound
where
  listed : Walker ((Text × Text) × Bool) := do
    let g ← gloss ts
    if ← at? ts .comma then
      let _ ← consume ts .comma
      return (g, true)
    else return (g, false)

def element : (depth : Nat) → Walker Element
  | 0 => unfinished
  | depth + 1 => do
    let w ← getThe Walk
    let e ← inside (element depth)
    modifyThe Walk (·.noteElement w.place)
    return e
where
  inside (inner : Walker Element) : Walker Element := do
    let t ← current ts
    match t.kind with
    | .leftBrace => do
      let _ ← consume ts .leftBrace
      let options ← glosses ts bound
      let _ ← consume ts .rightBrace
      return .glossed (.ofList options)
    | .leftBracket => do
      let _ ← consume ts .leftBracket
      let child ← inner
      let _ ← consume ts .rightBracket
      return .optional child
    | .atSign => do
      let _ ← consume ts .atSign
      let name ← consume ts .identifier
      return .setRef name
    | .identifier => do
      let text ← consume ts .identifier
      return .literal text
    | _ => fail ts .element

def alternative : Walker Alternative :=
  loopWhile (return !((← at? ts .comma) || (← at? ts .rightBrace))) joined bound
where
  joined : Walker Element := do
    let e ← element ts bound bound
    if ← at? ts .plus then
      let _ ← consume ts .plus
      return e
    else return e

def alternatives : Walker (List Alternative) :=
  loop listed bound
where
  listed : Walker (Alternative × Bool) := do
    let a ← alternative ts bound
    if ← at? ts .comma then
      let _ ← consume ts .comma
      return (a, !(← at? ts .rightBrace))
    else return (a, false)

end Alternatives

section Declarations

def header (keyword : TokenKind) : Walker (Text × Text) := do
  let _ ← consume ts keyword
  let name ← consume ts .identifier
  let description ← description
  let _ ← consume ts .leftBrace
  return (name, description)
where
  description : Walker Text := do
    if ← at? ts .colon then
      let _ ← consume ts .colon
      consume ts .string
    else return []

def declaration : Walker Declaration := do
  if ← at? ts .suffix then
    let (name, description) ← header ts .suffix
    let parts ← definitions ts bound
    let _ ← consume ts .rightBrace
    return .set name description parts
  else if ← at? ts .rule then
    let (name, description) ← header ts .rule
    let parts ← alternatives ts bound
    let _ ← consume ts .rightBrace
    return .rule name description parts
  else fail ts .declaration

/-- All declarations up to an end token. -/
def declarations : Walker (List Declaration) :=
  loopWhile (return !(← at? ts .eof)) (declaration ts bound) bound

end Declarations

end Walker

end Morphotactics
