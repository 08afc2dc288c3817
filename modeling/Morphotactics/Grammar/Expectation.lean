import Morphotactics.Text.Numeral
import Morphotactics.Token

/-! Readers of tokens, and what they say of a token that cannot come next. Every reader gives what it
has read together with the tokens that are left. -/
namespace Morphotactics

abbrev Tokens := List Token

/-- What may come next at the place of a syntax error. -/
inductive Expected where
  | kind (kind : TokenKind)
  | declaration
  | operand
  | definitionEnd
  | element
  deriving DecidableEq

def Expected.message : Expected → Text
  | .kind k => k.name
  | .declaration => "SUFFIX or RULE".toList
  | .operand => "LITERAL_SET or REGEX_PATTERN".toList
  | .definitionEnd => "COMMA or RBRACE".toList
  | .element => "rule element".toList

/-- A token of the wrong kind, or a number that cannot be read. -/
inductive ParseError where
  | unexpected (expected : Expected) (found : TokenKind) (position : Position)
  | numeral (fault : NumeralFault)
  deriving DecidableEq

namespace Tokens

/-- The next token. A list that is used up counts as one that is at its end token. -/
def current (ts : Tokens) : Token :=
  ts.headD ⟨.eof, [], .start⟩

def at? (ts : Tokens) (kind : TokenKind) : Bool :=
  ts.current.kind = kind

theorem ne_nil_of_at? {ts : Tokens} {kind : TokenKind} (h : ts.at? kind) (hk : kind ≠ .eof) :
    ts ≠ [] := by
  rintro rfl
  simp [at?, current] at h
  exact hk h.symm

end Tokens

/-- What has been read, and the tokens that are left. -/
abbrev Parsed (α : Type) := α × Tokens

def refuse {α : Type} (expected : Expected) (ts : Tokens) : Except ParseError α :=
  .error (.unexpected expected ts.current.kind ts.current.position)

def expect (kind : TokenKind) : Tokens → Except ParseError (Parsed Text)
  | [] => refuse (.kind kind) []
  | t :: rest => if t.kind = kind then .ok (t.text, rest) else refuse (.kind kind) (t :: rest)

/-- What holds of the number of tokens that a reader leaves, if it reads anything. -/
def Leaves {α : Type} (p : Nat → Prop) (result : Except ParseError (Parsed α)) : Prop :=
  ∀ ⦃a left⦄, result = .ok (a, left) → p left.length

namespace Leaves

variable {α β : Type} {p q : Nat → Prop}

theorem ok {a : α} {left : Tokens} (h : p left.length) : Leaves p (.ok (a, left)) := by
  rintro _ _ ⟨⟩
  exact h

theorem error {e : ParseError} : Leaves p (.error e : Except ParseError (Parsed α)) := nofun

theorem refuse {expected : Expected} {ts : Tokens} :
    Leaves p (refuse expected ts : Except ParseError (Parsed α)) :=
  error

/-- Readers one after the other: the second may rely on what the first leaves. -/
theorem bind {first : Except ParseError (Parsed α)} {next : Parsed α → Except ParseError (Parsed β)}
    (hfirst : Leaves p first) (hnext : ∀ a left, p left.length → Leaves q (next (a, left))) :
    Leaves q (first >>= next) := by
  cases first with
  | error e => exact error
  | ok r => exact hnext r.1 r.2 (hfirst rfl)

end Leaves

theorem expect_length {kind : TokenKind} {ts : Tokens} :
    Leaves (· < ts.length) (expect kind ts) := by
  cases ts with
  | nil => exact .refuse
  | cons t rest =>
    rw [expect]
    split
    · exact .ok (Nat.lt_succ_self _)
    · exact .refuse

end Morphotactics
