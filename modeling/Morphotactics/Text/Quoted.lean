import Morphotactics.Text
import Morphotactics.Text.Printable

/-! Quoted spelling of a text, in which every character can be seen. -/
namespace Morphotactics.Text

/-- The apostrophe is the quotation mark, unless the text has one and has no double quote. -/
def quotationMark (text : Text) : Char :=
  if text.elem '\x27' && !text.elem '\x22' then '\x22' else '\x27'

/-- A character between quotation marks: escaped with as few digits as its code point allows. -/
def quoteChar (mark c : Char) : Text :=
  if c = mark || c = '\\' then ['\\', c]
  else if c = '\n' then ['\\', 'n']
  else if c = '\r' then ['\\', 'r']
  else if c = '\t' then ['\\', 't']
  else if isPrintable c then [c]
  else if c.toNat < 0x100 then '\\' :: 'x' :: hex 2 c.toNat
  else if c.toNat < 0x10000 then '\\' :: 'u' :: hex 4 c.toNat
  else '\\' :: 'U' :: hex 8 c.toNat

def quoted (text : Text) : Text :=
  let mark := quotationMark text
  mark :: text.flatMap (quoteChar mark) ++ [mark]

end Morphotactics.Text
