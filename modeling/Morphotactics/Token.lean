import Morphotactics.Text.Quoted

/-! Tokens of the notation in which suffix grammars are written. -/
namespace Morphotactics

/-- A place in a text, counted from line 1 and column 1. -/
structure Position where
  line : Nat
  column : Nat
  deriving DecidableEq

def Position.start : Position := ⟨1, 1⟩

def Position.step (p : Position) (c : Char) : Position :=
  if c = '\n' then ⟨p.line + 1, 1⟩ else ⟨p.line, p.column + 1⟩

def Position.advance (p : Position) (text : Text) : Position :=
  text.foldl Position.step p

inductive TokenKind where
  | suffix
  | rule
  | when
  | endsWith
  | startsWith
  | isVowel
  | isConsonant
  | cut
  | replace
  | identifier
  | string
  | number
  | literalSet
  | pattern
  | leftBrace
  | rightBrace
  | leftBracket
  | rightBracket
  | leftParen
  | rightParen
  | comma
  | colon
  | plus
  | atSign
  | eof
  deriving DecidableEq

namespace TokenKind

def keywords : List TokenKind :=
  [suffix, rule, when, endsWith, startsWith, isVowel, isConsonant, cut, replace]

def punctuation : List TokenKind :=
  [leftBrace, rightBrace, leftBracket, rightBracket, leftParen, rightParen, comma, colon, plus,
    atSign]

/-- The spelling of a keyword in upper case; for any other kind what it is called. -/
def spelling : TokenKind → String
  | suffix => "SUFFIX"
  | rule => "RULE"
  | when => "WHEN"
  | endsWith => "ENDSWITH"
  | startsWith => "STARTSWITH"
  | isVowel => "ISVOWEL"
  | isConsonant => "ISCONSONANT"
  | cut => "CUT"
  | replace => "REPLACE"
  | identifier => "IDENTIFIER"
  | string => "STRING"
  | number => "NUMBER"
  | literalSet => "LITERAL_SET"
  | pattern => "REGEX_PATTERN"
  | leftBrace => "LBRACE"
  | rightBrace => "RBRACE"
  | leftBracket => "LBRACKET"
  | rightBracket => "RBRACKET"
  | leftParen => "LPAREN"
  | rightParen => "RPAREN"
  | comma => "COMMA"
  | colon => "COLON"
  | plus => "PLUS"
  | atSign => "AT"
  | eof => "EOF"

def name (kind : TokenKind) : Text :=
  kind.spelling.toList

def ofChar? : Char → Option TokenKind
  | '\x7b' => some leftBrace
  | '\x7d' => some rightBrace
  | '[' => some leftBracket
  | ']' => some rightBracket
  | '(' => some leftParen
  | ')' => some rightParen
  | ',' => some comma
  | ':' => some colon
  | '+' => some plus
  | '@' => some atSign
  | _ => none

def all : List TokenKind :=
  keywords ++ [identifier, string, number, literalSet, pattern] ++ punctuation ++ [eof]

def ofName? (text : Text) : Option TokenKind :=
  all.find? (·.name = text)

/-- After these kinds a bracket opens a set of characters. -/
def takesSet (kind : TokenKind) : Bool :=
  kind = endsWith || kind = startsWith

end TokenKind

structure Token where
  kind : TokenKind
  text : Text
  position : Position
  deriving DecidableEq

def Token.inspect (t : Token) : Text :=
  "Token(".toList ++ t.kind.name ++ ", ".toList ++ t.text.quoted ++ ", ".toList ++
    Text.ofNat t.position.line ++ ':' :: Text.ofNat t.position.column ++ [')']

end Morphotactics
