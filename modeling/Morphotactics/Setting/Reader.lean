import Morphotactics.Setting
import Morphotactics.Text.Numeral

/-! Readers of settings documents, and what such documents leave out of account. -/
namespace Morphotactics.Setting

inductive DocumentFault where
  | malformed
  | numeral (fault : NumeralFault)
  deriving DecidableEq

def DocumentFault.message : DocumentFault → Text
  | .malformed => "Invalid TOML document".toList
  | .numeral fault => fault.message

/-- Readers take what they read off the front of the text. -/
abbrev Reader := StateT Text (Except DocumentFault)

namespace Reader

def fail {α : Type} : Reader α :=
  throw .malformed

def accept (expected : Text) : Reader Bool := do
  let text ← get
  if expected.isPrefixOf text then
    set (text.drop expected.length)
    return true
  else return false

def expect (expected : Text) : Reader Unit := do
  if ← accept expected then return () else fail

def takeWhile (isMember : Char → Bool) : Reader Text :=
  modifyGet fun text => (text.takeWhile isMember, text.dropWhile isMember)

end Reader

open Reader

def isSpace (c : Char) : Bool :=
  c = ' ' || c = '\t'

/-- Control characters, which stand nowhere but for tabs and, in some places, line feeds. -/
def isControl (c : Char) : Bool :=
  (c.toNat < 0x20 && c != '\t') || c.toNat = 0x7f

def skipSpace : Reader Unit := do
  let _ ← takeWhile isSpace

def skipComment : Reader Unit := do
  if ← accept ['#'] then
    if (← takeWhile (· != '\n')).any isControl then fail

def skipLines : Nat → Reader Unit
  | 0 => return ()
  | n + 1 => do
    let _ ← takeWhile fun c => isSpace c || c = '\n'
    if (← get).head? = some '#' then
      skipComment
      skipLines n

end Morphotactics.Setting
