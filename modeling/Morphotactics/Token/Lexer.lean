import Morphotactics.Letter
import Morphotactics.Token

/-! Reading of tokens. A text is first cut into lexemes, which together with the gaps before them
make up the whole of it, and the lexemes are then given their places. -/
namespace Morphotactics

/-- What closes with a mark that may be missing. -/
inductive Delimited where
  | string
  | pattern
  | literalSet
  deriving DecidableEq

inductive LexProblem where
  | unexpected (c : Char)
  | unterminated (what : Delimited)
  deriving DecidableEq

def LexProblem.message : LexProblem → Text
  | .unexpected c => "Unexpected character ".toList ++ Text.quoted [c]
  | .unterminated .string => "Unterminated string".toList
  | .unterminated .pattern => "Unterminated regex pattern".toList
  | .unterminated .literalSet => "Unterminated character set".toList

/-- The gap in front of the next token, and what follows it. A comment ends before its line does. -/
def splitGap : Text → Text × Text
  | [] => ([], [])
  | c :: rest =>
    if isBlank c then
      let (gap, left) := splitGap rest
      (c :: gap, left)
    else if c = '#' then
      let (gap, left) := splitComment rest
      (c :: gap, left)
    else ([], c :: rest)
where
  splitComment : Text → Text × Text
    | [] => ([], [])
    | c :: rest =>
      if c = '\n' then
        let (gap, left) := splitGap rest
        (c :: gap, left)
      else
        let (gap, left) := splitComment rest
        (c :: gap, left)

/-- The text up to a closing mark, and what follows the mark. A character after a backslash never
closes. -/
def splitDelimited (close : Char) : Text → Option (Text × Text)
  | [] => none
  | [c] => if c = close then some ([], []) else none
  | c :: d :: rest =>
    if c = close then some ([], d :: rest)
    else if c = '\\' then (splitDelimited close rest).map fun (inner, left) => (c :: d :: inner, left)
    else (splitDelimited close (d :: rest)).map fun (inner, left) => (c :: inner, left)

def splitSet : Text → Option (Text × Text)
  | [] => none
  | c :: rest =>
    if c = ']' then some ([], rest)
    else (splitSet rest).map fun (inner, left) => (c :: inner, left)

/-- Takes away each backslash and keeps the character after it. -/
def unescape : Text → Text
  | [] => []
  | [c] => [c]
  | c :: d :: rest => if c = '\\' then d :: unescape rest else c :: unescape (d :: rest)

structure Lexeme where
  gap : Text
  kind : TokenKind
  source : Text
  deriving DecidableEq

/-- The source without its first and its last character. -/
def inside (source : Text) : Text :=
  (source.drop 1).take (source.length - 2)

/-- The value of a lexeme: what stands between its marks if it has any. -/
def Lexeme.value (l : Lexeme) : Text :=
  match l.kind with
  | .string => unescape (inside l.source)
  | .pattern | .literalSet => inside l.source
  | _ => l.source

/-- The kind of a word, which is a keyword in any spelling that has its upper case. -/
def wordKind (word : Text) : TokenKind :=
  (TokenKind.keywords.find? (·.name = upperText word)).getD .identifier

def delimited (what : Delimited) (kind : TokenKind) (first last : Char) :
    Option (Text × Text) → Except LexProblem (TokenKind × Text × Text)
  | none => .error (.unterminated what)
  | some (inner, rest) => .ok (kind, first :: inner ++ [last], rest)

/-- The token at the beginning of `c :: rest`: its kind, its source, and what follows it. -/
def scanToken (previous : Option TokenKind) (c : Char) (rest : Text) :
    Except LexProblem (TokenKind × Text × Text) :=
  if c = '/' && !rest.isEmpty then delimited .pattern .pattern c '/' (splitDelimited '/' rest)
  else if c = '[' && previous.any TokenKind.takesSet then
    delimited .literalSet .literalSet c ']' (splitSet rest)
  else if let some kind := TokenKind.ofChar? c then .ok (kind, [c], rest)
  else if c = '"' then delimited .string .string c '"' (splitDelimited '"' rest)
  else if isDecimal c then
    .ok (.number, c :: rest.takeWhile isDecimal, rest.dropWhile isDecimal)
  else if startsIdentifier (c :: rest) then
    let word := c :: rest.takeWhile isIdentifierChar
    .ok (wordKind word, word, rest.dropWhile isIdentifierChar)
  else .error (.unexpected c)

/-- How the lexemes of a text end: after a last gap, or at a place where none can be read. -/
inductive LexEnd where
  | complete (gap : Text)
  | stuck (gap : Text) (problem : LexProblem)
  deriving DecidableEq

theorem splitGap_length (text : Text) :
    (splitGap text).2.length ≤ text.length ∧
      (splitGap.splitComment text).2.length ≤ text.length := by
  induction text with
  | nil => simp [splitGap, splitGap.splitComment]
  | cons c rest ih =>
    constructor
    · rw [splitGap]
      split
      · simp only [List.length_cons]
        omega
      · split
        · simp only [List.length_cons]
          omega
        · simp
    · rw [splitGap.splitComment]
      split
      · simp only [List.length_cons]
        omega
      · simp only [List.length_cons]
        omega

theorem splitDelimited_length {close : Char} {text inner left : Text}
    (h : splitDelimited close text = some (inner, left)) : left.length < text.length := by
  fun_induction splitDelimited close text generalizing inner with
  | case1 => simp at h
  | case2 => simp_all
  | case3 => simp at h
  | case4 => simp_all
  | case5 d rest _ ih =>
    obtain ⟨⟨i, l⟩, hr, he⟩ := Option.map_eq_some_iff.mp h
    simp only [Prod.mk.injEq] at he
    have := ih (he.2 ▸ hr)
    simp only [List.length_cons]
    omega
  | case6 c d rest _ _ ih =>
    obtain ⟨⟨i, l⟩, hr, he⟩ := Option.map_eq_some_iff.mp h
    simp only [Prod.mk.injEq] at he
    have := ih (he.2 ▸ hr)
    simp only [List.length_cons] at this ⊢
    omega

theorem splitSet_length {text inner left : Text} (h : splitSet text = some (inner, left)) :
    left.length < text.length := by
  fun_induction splitSet text generalizing inner with
  | case1 => simp at h
  | case2 => simp_all
  | case3 c rest _ ih =>
    obtain ⟨⟨i, l⟩, hr, he⟩ := Option.map_eq_some_iff.mp h
    simp only [Prod.mk.injEq] at he
    have := ih (he.2 ▸ hr)
    simp only [List.length_cons]
    omega

theorem delimited_rest {what : Delimited} {kind : TokenKind} {first last : Char}
    {split : Option (Text × Text)} {t : TokenKind × Text × Text}
    (h : delimited what kind first last split = .ok t) :
    ∃ inner, split = some (inner, t.2.2) := by
  cases split with
  | none => simp [delimited] at h
  | some s =>
    simp only [delimited, Except.ok.injEq] at h
    exact ⟨s.1, by rw [← h]⟩

theorem scanToken_length {previous : Option TokenKind} {c : Char} {rest : Text}
    {t : TokenKind × Text × Text} (h : scanToken previous c rest = .ok t) :
    t.2.2.length ≤ rest.length := by
  unfold scanToken at h
  split at h
  · obtain ⟨inner, hs⟩ := delimited_rest h
    exact Nat.le_of_lt (splitDelimited_length hs)
  split at h
  · obtain ⟨inner, hs⟩ := delimited_rest h
    exact Nat.le_of_lt (splitSet_length hs)
  split at h
  · simp only [Except.ok.injEq] at h
    simp [← h]
  split at h
  · obtain ⟨inner, hs⟩ := delimited_rest h
    exact Nat.le_of_lt (splitDelimited_length hs)
  split at h
  · simp only [Except.ok.injEq] at h
    simp only [← h]
    exact (List.dropWhile_sublist _).length_le
  split at h
  · simp only [Except.ok.injEq] at h
    simp only [← h]
    exact (List.dropWhile_sublist _).length_le
  · simp at h

/-- Cuts a text that follows a token of the given kind into lexemes. -/
def lexemes (previous : Option TokenKind) (text : Text) : List Lexeme × LexEnd :=
  match _hg : splitGap text with
  | (gap, []) => ([], .complete gap)
  | (gap, c :: rest) =>
    match _ht : scanToken previous c rest with
    | .error problem => ([], .stuck gap problem)
    | .ok (kind, source, left) =>
      let (more, ending) := lexemes (some kind) left
      (⟨gap, kind, source⟩ :: more, ending)
termination_by text.length
decreasing_by
  have h1 := (splitGap_length text).1
  have h2 := scanToken_length _ht
  simp only [_hg, List.length_cons] at h1
  simp only at h2
  omega

structure LexError where
  problem : LexProblem
  position : Position
  deriving DecidableEq

/-- The tokens of lexemes, the first of which begins at a place, closed by one end token. -/
def placeTokens (position : Position) : List Lexeme → LexEnd → Except LexError (List Token)
  | [], .complete gap => .ok [⟨.eof, [], position.advance gap⟩]
  | [], .stuck gap problem => .error ⟨problem, position.advance gap⟩
  | l :: rest, ending => do
    let start := position.advance l.gap
    let tokens ← placeTokens (start.advance l.source) rest ending
    return ⟨l.kind, l.value, start⟩ :: tokens

def tokenize (text : Text) : Except LexError (List Token) :=
  let (all, ending) := lexemes none text
  placeTokens .start all ending

end Morphotactics
