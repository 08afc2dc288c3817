import Mathlib
import Morphotactics.Proofs.Token.Covering

/-! Texts that cannot be cut into tokens. The error is at the first place where no token can be
read, and what comes before it are the tokens of a text of its own. -/
namespace Morphotactics

/-- A closing mark follows in the text. A backslash and the character behind it are passed over as a
pair. -/
def Closes (close : Char) (text : Text) : Prop :=
  ∃ inner left, text = inner ++ close :: left ∧ Paired close inner

/-- Neither a gap nor a token begins with the character in front of the text. -/
structure StartsNothing (c : Char) (rest : Text) : Prop where
  not_blank : isBlank c = false
  not_comment : c ≠ '#'
  not_mark : TokenKind.ofChar? c = none
  not_quote : c ≠ '"'
  not_digit : isDecimal c = false
  not_letter : isAlpha c = false
  not_underscore : c ≠ '_'
  no_hyphen : c = '-' → ∀ d ∈ rest.head?, isAlpha d = false
  no_pattern : c = '/' → rest = []

/-- No token can be read at the character in front of the text: what it opens is not closed there,
or it opens nothing. -/
inductive Unreadable (previous : Option TokenKind) : Char → Text → LexProblem → Prop
  | pattern {rest : Text} (nonempty : rest ≠ []) (unclosed : ¬ Closes '/' rest) :
      Unreadable previous '/' rest (.unterminated .pattern)
  | literalSet {rest : Text} (takes : previous.any TokenKind.takesSet) (unclosed : ']' ∉ rest) :
      Unreadable previous '[' rest (.unterminated .literalSet)
  | string {rest : Text} (unclosed : ¬ Closes '"' rest) :
      Unreadable previous '"' rest (.unterminated .string)
  | unexpected {c : Char} {rest : Text} (nothing : StartsNothing c rest) :
      Unreadable previous c rest (.unexpected c)

variable {previous : Option TokenKind} {position : Position} {text gap rest : Text} {c : Char}
  {problem : LexProblem} {e : LexError}

section Problems

theorem not_closes_of_splitDelimited {close : Char} (hclose : close ≠ '\\')
    (h : splitDelimited close text = none) : ¬ Closes close text := by
  rintro ⟨inner, left, rfl, hpaired⟩
  cases h.symm.trans (splitDelimited_of_paired hclose hpaired left)

theorem not_mem_of_splitSet (h : splitSet text = none) : ']' ∉ text := by
  intro hmem
  obtain ⟨inner, left, htext, hfirst⟩ := List.eq_append_cons_of_mem hmem
  cases h.symm.trans (splitSet_eq_some_iff.mpr ⟨hfirst, htext⟩)

theorem delimited_eq_error_iff {what : Delimited} {kind : TokenKind} {first last : Char}
    {split : Option (Text × Text)} :
    delimited what kind first last split = .error problem ↔
      split = none ∧ problem = .unterminated what := by
  cases split with
  | none => simp [delimited, eq_comm]
  | some => simp [delimited]

/-- A character that opens a word does so by itself, or as a hyphen by the letter behind it. -/
theorem startsIdentifier_eq_false_iff : startsIdentifier (c :: rest) = false ↔
    isAlpha c = false ∧ c ≠ '_' ∧ (c = '-' → ∀ d ∈ rest.head?, isAlpha d = false) := by
  cases hhead : rest.head? <;> simp [startsIdentifier, hhead, and_assoc]

theorem unreadable_of_scanToken (hblank : isBlank c = false) (hsharp : c ≠ '#')
    (h : scanToken previous c rest = .error problem) : Unreadable previous c rest problem := by
  -- In the order in which the beginnings of tokens are tried.
  unfold scanToken at h
  split at h
  · rename_i hslash
    obtain ⟨rfl, hrest⟩ : c = '/' ∧ rest ≠ [] := by simpa using hslash
    obtain ⟨hsplit, rfl⟩ := delimited_eq_error_iff.mp h
    exact .pattern hrest (not_closes_of_splitDelimited (by decide) hsplit)
  rename_i hslash
  split at h
  · rename_i hset
    obtain ⟨rfl, takes⟩ : c = '[' ∧ previous.any TokenKind.takesSet = true := by simpa using hset
    obtain ⟨hsplit, rfl⟩ := delimited_eq_error_iff.mp h
    exact .literalSet takes (not_mem_of_splitSet hsplit)
  split at h
  · cases h
  rename_i hmark
  split at h
  · rename_i hquote
    obtain rfl := hquote
    obtain ⟨hsplit, rfl⟩ := delimited_eq_error_iff.mp h
    exact .string (not_closes_of_splitDelimited (by decide) hsplit)
  rename_i hquote
  split at h
  · cases h
  rename_i hdigit
  split at h
  · cases h
  rename_i hword
  cases h
  obtain ⟨hletter, hunderscore, hhyphen⟩ :=
    startsIdentifier_eq_false_iff.mp (Bool.eq_false_iff.mpr hword)
  refine .unexpected ⟨hblank, hsharp, Option.eq_none_iff_forall_ne_some.mpr hmark, hquote,
    Bool.eq_false_iff.mpr hdigit, hletter, hunderscore, hhyphen, ?_⟩
  rintro rfl
  simpa using hslash

end Problems

section Cutting

theorem splitGap_head (text : Text) :
    (∀ c ∈ (splitGap text).2.head?, isBlank c = false ∧ c ≠ '#') ∧
      ∀ c ∈ (splitGap.splitComment text).2.head?, isBlank c = false ∧ c ≠ '#' := by
  induction text with
  | nil => simp [splitGap, splitGap.splitComment]
  | cons c rest ih =>
    obtain ⟨hgap, hcomment⟩ := ih
    constructor
    · rw [splitGap]
      split_ifs with hblank hsharp
      · exact hgap
      · exact hcomment
      · intro d hd
        obtain rfl := Option.some.inj hd
        exact ⟨Bool.eq_false_iff.mpr hblank, hsharp⟩
    · rw [splitGap.splitComment]
      split_ifs
      · exact hgap
      · exact hcomment

/-- A gap with something behind it is one in front of any other text as well. -/
theorem Gap.change {left : Text} (h : Gap left gap) (hne : left ≠ []) (other : Text) :
    Gap other gap := by
  induction h with
  | nil => exact .nil
  | blank is_blank _ ih => exact .blank is_blank ih
  | comment one_line _ ih => exact .comment one_line ih
  | last _ ended => exact absurd ended hne

/-- A token that ends within a text ends also if the text is cut short behind it. -/
theorem Maximal.of_append {kind : TokenKind} {front more : Text}
    (h : Maximal kind (front ++ more)) : Maximal kind front := by
  cases front with
  | nil => simp [Maximal]
  | cons c rest => exact h

/-- A token is scanned also if the text is cut short behind it. -/
theorem Scans.cut {kind : TokenKind} {source front more : Text}
    (h : Scans previous c rest kind source (front ++ more)) :
    ∃ other, source ++ front = c :: other ∧ Scans previous c other kind source front := by
  obtain ⟨written, maximal, fits⟩ := h.writes []
  obtain ⟨first, other, htext, hscans⟩ := scans_of_writes written maximal.of_append fits
  have hwhole : c :: rest = first :: (other ++ more) := by
    rw [h.text, ← List.append_assoc, htext, List.cons_append]
  obtain rfl := (List.cons.inj hwhole).1
  exact ⟨other, htext, hscans⟩

/-- A gap in front of something is a gap by itself. -/
theorem Gap.alone {left : Text} (h : Gap left gap) (hne : left ≠ []) :
    splitGap gap = (gap, []) := by
  have hgap := splitGap_of_gap (h.change hne []) nofun
  rwa [List.append_nil] at hgap

/-- One more token in front of a text that has been cut short. -/
theorem Tokenizes.cons_cut {kind : TokenKind} {source front more : Text} {ts : List Token}
    (hgap : Gap (c :: rest) gap) (hhead : isBlank c = false ∧ c ≠ '#')
    (hscans : Scans previous c rest kind source (front ++ more))
    (htail : Tokenizes (some kind) ((position.advance gap).advance source) front ts) :
    Tokenizes previous position (gap ++ (source ++ front))
      (⟨kind, Lexeme.value ⟨gap, kind, source⟩, position.advance gap⟩ :: ts) := by
  obtain ⟨other, hother, hcut⟩ := hscans.cut
  have hspace : splitGap (gap ++ c :: other) = (gap, c :: other) := by
    refine splitGap_of_gap (hgap.change (List.cons_ne_nil _ _) _) fun d hd => ?_
    obtain rfl := Option.some.inj hd
    exact hhead
  rw [hother]
  exact .token hspace hcut htail

/-- What comes before an error is read to its end, and there is no token where the error is. -/
theorem exists_tokenizes_of_error (h : tokensFrom previous position text = .error e) :
    ∃ front c rest ts, text = front ++ c :: rest ∧ e.position = position.advance front ∧
      Tokenizes previous position front (ts ++ [⟨.eof, [], e.position⟩]) ∧
        (∀ t ∈ ts, t.kind ≠ .eof) ∧ Unreadable (lastKind previous ts) c rest e.problem := by
  -- Along the tokens in front of the error. Each of them is read as well if the text ends there.
  induction hn : text.length using Nat.strongRecOn generalizing previous position text with
  | ind n ih =>
    have htext := (splitGap_text text).1
    have hspace := (splitGap_gap text).1
    have hhead := (splitGap_head text).1
    cases hgap : splitGap text with
    | mk gap left =>
      rw [hgap] at htext hspace hhead
      cases left with
      | nil =>
        obtain rfl : gap = text := by simpa using htext
        cases h.symm.trans (tokensFrom_of_gap hgap)
      | cons c rest =>
        rw [tokensFrom_of_token hgap] at h
        cases hscan : scanToken previous c rest with
        | error problem =>
          rw [hscan] at h
          cases h
          obtain ⟨hblank, hsharp⟩ := hhead c rfl
          exact ⟨gap, c, rest, [], htext.symm, rfl, .ended (hspace.alone (List.cons_ne_nil _ _)),
            List.forall_mem_nil _, unreadable_of_scanToken hblank hsharp hscan⟩
        | ok t =>
          obtain ⟨kind, source, left⟩ := t
          rw [hscan] at h
          have hscans := scanToken_ok_iff.mp hscan
          have hshort : left.length < n := by
            have hleft := scanToken_length hscan
            have hlength := congrArg List.length htext
            simp only [List.length_append, List.length_cons] at hlength hleft
            omega
          obtain herror | ⟨_, -, hnothing⟩ := bind_eq_error_iff.mp h
          · obtain ⟨front, d, more, ts, rfl, hplace, htail, hends, hunreadable⟩ :=
              ih _ hshort herror rfl
            refine ⟨gap ++ (source ++ front), d, more, _ :: ts, ?_, ?_,
              htail.cons_cut hspace (hhead c rfl) hscans, ?_, ?_⟩
            · rw [← htext, hscans.text]
              simp only [List.append_assoc]
            · rw [hplace, Position.advance_append, Position.advance_append]
            · exact List.forall_mem_cons.mpr ⟨hscans.kind_ne_eof, hends⟩
            · rw [lastKind_cons]
              exact hunreadable
          · cases hnothing

end Cutting

/-- A text that cannot be cut into tokens goes up to its error like a text that can, and at the
error there is what opens something and does not close it, or what begins no token. -/
theorem tokenize_stuck (h : tokenize text = .error e) :
    ∃ front c rest ts, text = front ++ c :: rest ∧
      tokenize front = .ok (ts ++ [⟨.eof, [], e.position⟩]) ∧ (∀ t ∈ ts, t.kind ≠ .eof) ∧
        e.position = Text.placeAt text front.length ∧
          Unreadable (lastKind none ts) c rest e.problem := by
  obtain ⟨front, c, rest, ts, rfl, hplace, htokens, hends, hunreadable⟩ :=
    exists_tokenizes_of_error h
  refine ⟨front, c, rest, ts, rfl, tokenize_ok_iff.mpr htokens, hends, ?_, hunreadable⟩
  rw [hplace, Text.placeAt_append]

/-- The last quote is behind a backslash, so that the string in the second line stays open. -/
theorem open_string_stuck :
    tokenize "a: \"b\"\n\"c\\\"".toList = .error ⟨.unterminated .string, ⟨2, 1⟩⟩ ∧
      ∃ front c rest ts, "a: \"b\"\n\"c\\\"".toList = front ++ c :: rest ∧
        tokenize front = .ok (ts ++ [⟨.eof, [], ⟨2, 1⟩⟩]) ∧
          Unreadable (lastKind none ts) c rest (.unterminated .string) := by
  have herror : tokenize "a: \"b\"\n\"c\\\"".toList =
      .error ⟨.unterminated .string, ⟨2, 1⟩⟩ := by
    cbv
  obtain ⟨front, c, rest, ts, htext, hfront, -, -, hunreadable⟩ := tokenize_stuck herror
  exact ⟨herror, front, c, rest, ts, htext, hfront, hunreadable⟩

end Morphotactics
