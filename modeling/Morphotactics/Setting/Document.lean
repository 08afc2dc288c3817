import Morphotactics.Setting.Entries
import Morphotactics.Setting.Quotation
import Morphotactics.Setting.Scalar

/-! Settings documents in TOML. -/
namespace Morphotactics.Setting

open Reader

/-- Lists and tables cannot be added to once they are written out as values. -/
def isClosed : Setting → Bool
  | .list _ | .table _ => true
  | _ => false

def orFail {α : Type} : Option α → Reader α
  | some a => return a
  | none => fail

mutual

/-- A value. The first argument bounds the depth of nested values. -/
def readValue (size : Nat) : Nat → Reader Setting
  | 0 => fail
  | n + 1 => do
    if ← accept ['"', '"', '"'] then return .text (← readMultiline '"' size)
    if ← accept ['"'] then return .text (← readBasic false size)
    if ← accept ['\x27', '\x27', '\x27'] then return .text (← readMultiline '\x27' size)
    if ← accept ['\x27'] then return .text (← readLiteral false size)
    if ← accept "true".toList then return .boolean true
    if ← accept "false".toList then return .boolean false
    if ← accept ['['] then return .list (← readItems size n)
    if ← accept ['\x7b'] then
      skipSpace
      if ← accept ['\x7d'] then return .table []
      return .table (← readPairs size n [] [])
    readScalar

def readItems (size : Nat) : Nat → Reader (List Setting)
  | 0 => fail
  | n + 1 => do
    skipLines size
    if ← accept [']'] then return []
    let item ← readValue size n
    skipLines size
    if ← accept [','] then return item :: (← readItems size n)
    expect [']']
    return [item]

/-- The pairs of a table on one line and its closing brace, after the pairs so far and the keys of
those that are closed. -/
def readPairs (size : Nat) : Nat → Entries → List (List Text) → Reader Entries
  | 0, _, _ => fail
  | n + 1, entries, closed => do
    let key ← readKey size size
    expect ['=']
    skipSpace
    let value ← readValue size n
    if closed.any (·.isPrefixOf key) then fail
    let entries ← orFail (putAt false key value entries)
    skipSpace
    if ← accept ['\x7d'] then return entries
    expect [',']
    skipSpace
    readPairs size n entries (if isClosed value then key :: closed else closed)

end

/-- A document in the middle of its reading. Tables that were declared cannot be declared again,
and those that are closed cannot be added to. -/
structure Progress where
  entries : Entries := []
  header : List Text := []
  declared : List (List Text) := []
  /-- Tables that count as declared from the next header on. -/
  pending : List (List Text) := []
  closed : List (List Text) := []

/-- A table is closed if it is in one that is. -/
def Progress.isClosed (p : Progress) (path : List Text) : Bool :=
  p.closed.any (·.isPrefixOf path)

def readTableHeader (size : Nat) (p : Progress) : Reader Progress := do
  skipSpace
  let key ← readKey size size
  if p.declared.elem key || p.isClosed key then fail
  let entries ← orFail (change true some key p.entries)
  expect [']']
  return { p with entries := entries, header := key, declared := key :: p.declared }

/-- A header of a table in a list, after its opening brackets. What was said of tables under its
key is forgotten. -/
def readListHeader (size : Nat) (p : Progress) : Reader Progress := do
  skipSpace
  let key ← readKey size size
  if p.isClosed key then fail
  let entries ← orFail (appendTable key p.entries)
  expect [']', ']']
  let keep (paths : List (List Text)) : List (List Text) := paths.filter (!key.isPrefixOf ·)
  return { p with entries := entries, header := key, declared := key :: keep p.declared,
                  closed := keep p.closed }

/-- A key with its value, put into the table of the last header. -/
def readEntry (size : Nat) (p : Progress) : Reader Progress := do
  let key ← readKey size size
  expect ['=']
  skipSpace
  let value ← readValue size size
  let path := p.header ++ key
  let within := (List.range (key.length - 1)).map fun i => p.header ++ key.take (i + 1)
  if within.any p.declared.elem || p.isClosed path.dropLast then fail
  let entries ← orFail (putAt true path value p.entries)
  return { p with entries := entries, pending := within ++ p.pending,
                  closed := if Setting.isClosed value then path :: p.closed else p.closed }

def readDocument (size : Nat) : Nat → Progress → Reader Entries
  | 0, p => return p.entries
  | n + 1, p => do
    skipSpace
    match ← get with
    | [] => return p.entries
    | c :: _ =>
      let p ←
        if c = '\n' || c = '#' then pure p
        else if c = '[' then do
          let p := { p with declared := p.pending ++ p.declared, pending := [] }
          if ← accept ['[', '['] then readListHeader size p
          else
            expect ['[']
            readTableHeader size p
        else readEntry size p
      skipSpace
      skipComment
      match ← get with
      | [] => return p.entries
      | '\n' :: rest =>
        set rest
        readDocument size n p
      | _ => fail

def parseDocument (text : Text) : Except DocumentFault Entries :=
  let rec joined : Text → Text
    | [] => []
    | [c] => [c]
    | c :: d :: rest =>
      if c = '\r' && d = '\n' then '\n' :: joined rest else c :: joined (d :: rest)
  let text := joined text
  (readDocument (text.length + 1) (text.length + 1) {}).run' text

end Morphotactics.Setting
