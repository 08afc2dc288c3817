import Morphotactics.Proofs.Token.Tokenizing

/-! Tokens of two texts with a line break between them: those of the first without its end token,
and then those of the second, as many lines further down as the first text has. -/
namespace Morphotactics

section Places

/-- The place a number of lines further down. -/
def Position.lowered (lines : Nat) (p : Position) : Position :=
  ⟨p.line + lines, p.column⟩

def Token.moved (move : Position → Position) (t : Token) : Token :=
  { t with position := move t.position }

def LexError.moved (move : Position → Position) (e : LexError) : LexError :=
  { e with position := move e.position }

/-- The tokens or the error of a text, at other places. -/
def movedTokens (move : Position → Position) (outcome : Except LexError (List Token)) :
    Except LexError (List Token) :=
  (outcome.map (List.map (Token.moved move))).mapError (LexError.moved move)

theorem Position.advance_append (p : Position) (first second : Text) :
    p.advance (first ++ second) = (p.advance first).advance second :=
  List.foldl_append

theorem Position.advance_lowered (lines : Nat) (p : Position) (text : Text) :
    (p.lowered lines).advance text = (p.advance text).lowered lines := by
  induction text generalizing p with
  | nil => rfl
  | cons c rest ih =>
    have hstep : (p.lowered lines).step c = (p.step c).lowered lines := by
      unfold Position.step Position.lowered
      split_ifs
      · exact congrArg (Position.mk · 1) (Nat.add_right_comm _ _ _)
      · rfl
    exact (congrArg (Position.advance · rest) hstep).trans (ih (p.step c))

theorem Position.advance_line (p : Position) (text : Text) :
    (p.advance text).line = p.line + text.count '\n' := by
  induction text generalizing p with
  | nil => rfl
  | cons c rest ih =>
    have hrest : (p.advance (c :: rest)).line = (p.step c).line + rest.count '\n' := ih (p.step c)
    rw [hrest, Position.step]
    by_cases hc : c = '\n'
    · rw [if_pos hc, hc, List.count_cons_self]
      show p.line + 1 + _ = _
      omega
    · rw [if_neg hc, List.count_cons_of_ne hc]

/-- Behind a text and a line break a line begins. -/
theorem Position.advance_line_break (text : Text) :
    Position.start.advance (text ++ ['\n']) = Position.start.lowered (text.count '\n' + 1) := by
  have hline := Position.advance_line .start text
  rw [Position.advance_append]
  show (Position.start.advance text).step '\n' = _
  rw [Position.step, if_pos rfl, hline]
  exact congrArg (Position.mk · 1) (Nat.add_assoc _ _ _)

/-- Tokens are placed alike wherever a text begins. -/
theorem placeTokens_lowered (lines : Nat) (position : Position) (all : List Lexeme)
    (ending : LexEnd) :
    placeTokens (position.lowered lines) all ending =
      movedTokens (.lowered lines) (placeTokens position all ending) := by
  induction all generalizing position with
  | nil =>
    cases ending <;> simp only [placeTokens, Position.advance_lowered] <;> rfl
  | cons l rest ih =>
    simp only [placeTokens, Position.advance_lowered, ih]
    cases placeTokens ((position.advance l.gap).advance l.source) rest ending <;> rfl

end Places

variable {previous : Option TokenKind} {position : Position} {text : Text}

theorem tokensFrom_lowered (lines : Nat) (previous : Option TokenKind) (position : Position)
    (text : Text) :
    tokensFrom previous (position.lowered lines) text =
      movedTokens (.lowered lines) (tokensFrom previous position text) :=
  placeTokens_lowered lines position _ _

/-- What comes before a text matters only if a set of characters may follow it. -/
theorem tokensFrom_eq_of_not_takesSet (h : previous.any TokenKind.takesSet = false) :
    tokensFrom previous position text = tokensFrom none position text := by
  have hscan : ∀ c rest, scanToken previous c rest = scanToken none c rest := by
    intro c rest
    simp [scanToken, h]
  have hlexemes : lexemes previous text = lexemes none text := by
    rw [lexemes_eq previous, lexemes_eq none]
    simp only [hscan]
  rw [tokensFrom, tokensFrom, hlexemes]

/-- The kind of the last of some tokens, or the kind that stands before them. -/
def lastKind (previous : Option TokenKind) (ts : List Token) : Option TokenKind :=
  (ts.getLast?.map (·.kind)).or previous

theorem lastKind_cons (t : Token) (ts : List Token) :
    lastKind previous (t :: ts) = lastKind (some t.kind) ts := by
  rw [lastKind, lastKind, List.getLast?_cons]
  cases ts.getLast? <;> rfl

/-- A gap goes on in the next line. -/
theorem tokensFrom_append_newline_of_gap (h : splitGap text = (text, [])) (next : Text) :
    tokensFrom previous position (text ++ '\n' :: next) =
      tokensFrom previous (position.advance (text ++ ['\n'])) next := by
  have hgap : splitGap (text ++ '\n' :: next) =
      (text ++ '\n' :: (splitGap next).1, (splitGap next).2) :=
    (splitGap_append_newline text next).1 (congrArg Prod.snd h)
  have hplace : ∀ more, position.advance (text ++ '\n' :: more) =
      (position.advance (text ++ ['\n'])).advance more := by
    intro more
    rw [← Position.advance_append, List.append_assoc, List.singleton_append]
  have hnext := (splitGap_text next).1
  cases hsplit : splitGap next with
  | mk gap left =>
    rw [hsplit] at hgap hnext
    cases left with
    | nil =>
      obtain rfl : gap = next := by simpa using hnext
      rw [tokensFrom_of_gap hgap, tokensFrom_of_gap hsplit, hplace]
    | cons c rest =>
      rw [tokensFrom_of_token hgap, tokensFrom_of_token hsplit, hplace]
      rfl

/-- A text that has been read is read the same in front of another line, and the tokens of that
line follow. -/
theorem Tokenizes.append_newline {ts : List Token} (h : Tokenizes previous position text ts) :
    ∃ before, ts = before ++ [⟨.eof, [], position.advance text⟩] ∧ (∀ t ∈ before, t.kind ≠ .eof) ∧
      ∀ next, tokensFrom previous position (text ++ '\n' :: next) =
        (tokensFrom (lastKind previous before) (position.advance (text ++ ['\n'])) next).map
          (before ++ ·) := by
  -- Along the tokens of the text. None of them goes on with a line break, and its last gap, which
  -- may be a comment, ends with it.
  induction h with
  | ended space =>
    refine ⟨[], rfl, List.forall_mem_nil _, fun next => ?_⟩
    rw [tokensFrom_append_newline_of_gap space]
    show tokensFrom _ _ next = (tokensFrom _ _ next).map id
    rw [Except.map_id]
    rfl
  | @token previous position text gap rest source left c kind ts space scans _ ih =>
    obtain ⟨before, rfl, hends, hnext⟩ := ih
    have htext : text = gap ++ (source ++ left) := by
      rw [← scans.text, ← (splitGap_text text).1, space]
    have hplace : ∀ more, position.advance (text ++ more) =
        ((position.advance gap).advance source).advance (left ++ more) := by
      intro more
      rw [htext, ← Position.advance_append, ← Position.advance_append]
      simp only [List.append_assoc]
    have hkind : ∀ t ∈ ⟨kind, Lexeme.value ⟨gap, kind, source⟩, position.advance gap⟩ :: before,
        t.kind ≠ .eof :=
      List.forall_mem_cons.mpr ⟨scans.kind_ne_eof, hends⟩
    refine ⟨_, ?_, hkind, fun next => ?_⟩
    · have hend := hplace []
      rw [List.append_nil, List.append_nil] at hend
      rw [hend]
      rfl
    · have hspace : splitGap (text ++ '\n' :: next) = (gap, c :: (rest ++ '\n' :: next)) := by
        have hleft := (splitGap_append_of_left text ('\n' :: next)).1
        rw [space] at hleft
        exact hleft (List.cons_ne_nil _ _)
      rw [tokensFrom_of_token hspace, scanToken_ok_iff.mpr (scans.append (breaks_newline next))]
      dsimp only
      rw [hnext, hplace, lastKind_cons]
      cases tokensFrom (lastKind (some kind) before) _ next <;> rfl

/-- The tokens or the error of the next line, as many lines further down as a text has and one. -/
theorem tokenize_append_newline {ts : List Token} (h : tokenize text = .ok ts) :
    ∃ before position, ts = before ++ [⟨.eof, [], position⟩] ∧ (∀ t ∈ before, t.kind ≠ .eof) ∧
      ((lastKind none before).any TokenKind.takesSet = false → ∀ next,
        tokenize (text ++ '\n' :: next) =
          (movedTokens (.lowered (text.count '\n' + 1)) (tokenize next)).map (before ++ ·)) := by
  obtain ⟨before, hts, hends, hnext⟩ := (tokenize_ok_iff.mp h).append_newline
  refine ⟨before, _, hts, hends, fun hlast next => ?_⟩
  rw [tokenize_eq, tokenize_eq, hnext, tokensFrom_eq_of_not_takesSet hlast,
    Position.advance_line_break, tokensFrom_lowered]

end Morphotactics
