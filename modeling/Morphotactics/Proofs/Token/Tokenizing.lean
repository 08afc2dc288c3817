import Morphotactics.Proofs.Token.Scanning
import Mathlib.Tactic.SplitIfs

/-! Reading the tokens of a text one by one, from any place on. -/
namespace Morphotactics

/-- The tokens of a text that begins at a place, after a token of the given kind. -/
def tokensFrom (previous : Option TokenKind) (position : Position) (text : Text) :
    Except LexError (List Token) :=
  placeTokens position (lexemes previous text).1 (lexemes previous text).2

theorem tokenize_eq (text : Text) : tokenize text = tokensFrom none .start text :=
  rfl

variable {previous : Option TokenKind} {position : Position} {text : Text}

section Gap

theorem splitGap_text (text : Text) :
    (splitGap text).1 ++ (splitGap text).2 = text ∧
      (splitGap.splitComment text).1 ++ (splitGap.splitComment text).2 = text := by
  induction text with
  | nil => exact ⟨rfl, rfl⟩
  | cons c rest ih =>
    obtain ⟨hgap, hcomment⟩ := ih
    constructor
    · rw [splitGap]
      split_ifs
      · exact congrArg (List.cons c) hgap
      · exact congrArg (List.cons c) hcomment
      · rfl
    · rw [splitGap.splitComment]
      split_ifs
      · exact congrArg (List.cons c) hgap
      · exact congrArg (List.cons c) hcomment

/-- A gap in front of a token ends there, whatever is written behind it. -/
theorem splitGap_append_of_left (text more : Text) :
    ((splitGap text).2 ≠ [] →
        splitGap (text ++ more) = ((splitGap text).1, (splitGap text).2 ++ more)) ∧
      ((splitGap.splitComment text).2 ≠ [] →
        splitGap.splitComment (text ++ more) =
          ((splitGap.splitComment text).1, (splitGap.splitComment text).2 ++ more)) := by
  induction text with
  | nil => exact ⟨fun h => absurd rfl h, fun h => absurd rfl h⟩
  | cons c rest ih =>
    obtain ⟨hgap, hcomment⟩ := ih
    rw [List.cons_append, splitGap, splitGap, splitGap.splitComment, splitGap.splitComment]
    constructor
    · split_ifs
      · intro h
        rw [hgap h]
      · intro h
        rw [hcomment h]
      · intro _
        rfl
    · split_ifs
      · intro h
        rw [hgap h]
      · intro h
        rw [hcomment h]

theorem isBlank_newline : isBlank '\n' = true := by
  cbv

/-- The next line goes on with a gap, also after a comment. -/
theorem splitGap_append_newline (text next : Text) :
    ((splitGap text).2 = [] →
        splitGap (text ++ '\n' :: next) = (text ++ '\n' :: (splitGap next).1, (splitGap next).2)) ∧
      ((splitGap.splitComment text).2 = [] →
        splitGap.splitComment (text ++ '\n' :: next) =
          (text ++ '\n' :: (splitGap next).1, (splitGap next).2)) := by
  induction text with
  | nil => simp [splitGap, splitGap.splitComment, isBlank_newline]
  | cons c rest ih =>
    obtain ⟨hgap, hcomment⟩ := ih
    rw [List.cons_append, splitGap, splitGap, splitGap.splitComment, splitGap.splitComment]
    constructor
    · split_ifs
      · intro h
        rw [hgap h]
        rfl
      · intro h
        rw [hcomment h]
        rfl
      · intro h
        cases h
    · split_ifs
      · intro h
        rw [hgap h]
        rfl
      · intro h
        rw [hcomment h]
        rfl

end Gap

theorem lexemes_eq (previous : Option TokenKind) (text : Text) :
    lexemes previous text =
      match splitGap text with
      | (gap, []) => ([], .complete gap)
      | (gap, c :: rest) =>
        match scanToken previous c rest with
        | .error problem => ([], .stuck gap problem)
        | .ok (kind, source, left) =>
          (⟨gap, kind, source⟩ :: (lexemes (some kind) left).1, (lexemes (some kind) left).2) := by
  rw [lexemes]
  split
  · rename_i h
    rw [h]
  · rename_i gap c rest h
    rw [h]
    dsimp only
    split
    · rename_i ht
      rw [ht]
    · rename_i ht
      rw [ht]

theorem tokensFrom_of_gap (h : splitGap text = (text, [])) :
    tokensFrom previous position text = .ok [⟨.eof, [], position.advance text⟩] := by
  rw [tokensFrom, lexemes_eq, h]
  rfl

theorem tokensFrom_of_token {c : Char} {gap rest : Text} (h : splitGap text = (gap, c :: rest)) :
    tokensFrom previous position text =
      match scanToken previous c rest with
      | .error problem => .error ⟨problem, position.advance gap⟩
      | .ok (kind, source, left) => do
        let ts ← tokensFrom (some kind) ((position.advance gap).advance source) left
        return ⟨kind, Lexeme.value ⟨gap, kind, source⟩, position.advance gap⟩ :: ts := by
  rw [tokensFrom, lexemes_eq, h]
  dsimp only
  cases hscan : scanToken previous c rest with
  | error problem => rfl
  | ok t => rfl

/-- A text that begins at a place, after a token of the given kind, has these tokens. -/
inductive Tokenizes : Option TokenKind → Position → Text → List Token → Prop
  | ended {previous : Option TokenKind} {position : Position} {text : Text}
      (space : splitGap text = (text, [])) :
      Tokenizes previous position text [⟨.eof, [], position.advance text⟩]
  | token {previous : Option TokenKind} {position : Position} {text gap rest source left : Text}
      {c : Char} {kind : TokenKind} {ts : List Token} (space : splitGap text = (gap, c :: rest))
      (scans : Scans previous c rest kind source left)
      (tail : Tokenizes (some kind) ((position.advance gap).advance source) left ts) :
      Tokenizes previous position text
        (⟨kind, Lexeme.value ⟨gap, kind, source⟩, position.advance gap⟩ :: ts)

theorem Tokenizes.tokensFrom_eq {ts : List Token} (h : Tokenizes previous position text ts) :
    tokensFrom previous position text = .ok ts := by
  induction h with
  | ended space => exact tokensFrom_of_gap space
  | token space scans _ ih =>
    rw [tokensFrom_of_token space, scanToken_ok_iff.mpr scans]
    dsimp only
    rw [ih]
    rfl

theorem tokenizes_of_tokensFrom {ts : List Token} (h : tokensFrom previous position text = .ok ts) :
    Tokenizes previous position text ts := by
  induction hn : text.length using Nat.strongRecOn generalizing previous position text ts with
  | ind n ih =>
    have htext := (splitGap_text text).1
    cases hgap : splitGap text with
    | mk gap left =>
      rw [hgap] at htext
      cases left with
      | nil =>
        obtain rfl : gap = text := by simpa using htext
        obtain rfl := Except.ok.inj ((tokensFrom_of_gap hgap).symm.trans h)
        exact .ended hgap
      | cons c rest =>
        rw [tokensFrom_of_token hgap] at h
        cases hscan : scanToken previous c rest with
        | error problem =>
          rw [hscan] at h
          cases h
        | ok t =>
          obtain ⟨kind, source, left⟩ := t
          rw [hscan] at h
          obtain ⟨more, hmore, h⟩ := bind_eq_ok_iff.mp h
          obtain rfl := pure_eq_ok_iff.mp h
          have hshort : left.length < n := by
            have hleft := scanToken_length hscan
            have hlength := congrArg List.length htext
            simp only [List.length_append, List.length_cons] at hlength hleft
            omega
          exact .token hgap (scanToken_ok_iff.mp hscan) (ih _ hshort hmore rfl)

theorem tokenize_ok_iff {ts : List Token} :
    tokenize text = .ok ts ↔ Tokenizes none .start text ts :=
  ⟨tokenizes_of_tokensFrom, Tokenizes.tokensFrom_eq⟩

end Morphotactics
