import Morphotactics.Proofs.Token.Gap
import Morphotactics.Proofs.Token.Seam

/-! Where the tokens of a text stand: each is written at its own place, and between them there is
nothing but blanks and comments. -/
namespace Morphotactics

namespace Text

/-- The code points from an offset on, up to another one that is not included. -/
def slice (text : Text) (first past : Nat) : Text :=
  (text.drop first).take (past - first)

/-- The place of an offset: its line is counted by the line breaks before it, and its column by the
code points since the last of them. -/
def placeAt (text : Text) (offset : Nat) : Position :=
  ⟨1 + (text.take offset).count '\n',
    1 + ((text.take offset).reverse.takeWhile (· ≠ '\n')).length⟩

theorem slice_append (before middle after : Text) :
    slice (before ++ (middle ++ after)) before.length (before.length + middle.length) = middle := by
  simp [slice]

theorem placeAt_append (before after : Text) :
    placeAt (before ++ after) before.length = Position.start.advance before := by
  rw [placeAt, List.take_left]
  induction before using List.reverseRecOn with
  | nil => rfl
  | append_singleton before c ih =>
    rw [Position.advance_append, ← ih]
    by_cases hc : c = '\n'
    · simp [Position.advance, Position.step, hc, Nat.add_assoc]
    · simp [Position.advance, Position.step, hc, Nat.add_assoc]

end Text

/-- The tokens stand in a text from an offset on, each in its own span, with a gap in front of it.
They are followed by an end token at the end of the text. -/
inductive Covers (text : Text) : (offset : Nat) → List (Nat × Nat) → List Token → Prop
  | ended {offset : Nat} (bound : offset ≤ text.length)
      (space : Gap [] (Text.slice text offset text.length)) :
      Covers text offset [] [⟨.eof, [], Text.placeAt text text.length⟩]
  | token {offset first past : Nat} {spans : List (Nat × Nat)} {t : Token} {ts : List Token}
      (before : offset ≤ first) (nonempty : first < past) (bound : past ≤ text.length)
      (space : Gap (text.drop first) (Text.slice text offset first))
      (written : Writes t.kind (Text.slice text first past) t.text)
      (maximal : Maximal t.kind (text.drop past)) (place : t.position = Text.placeAt text first)
      (tail : Covers text past spans ts) : Covers text offset ((first, past) :: spans) (t :: ts)

/-- A token in the middle of a text: a gap, the source of the token, and what is left. -/
theorem Covers.cons {before gap source left : Text} {spans : List (Nat × Nat)} {t : Token}
    {ts : List Token} (space : Gap (source ++ left) gap) (written : Writes t.kind source t.text)
    (maximal : Maximal t.kind left) (place : t.position = Position.start.advance (before ++ gap))
    (tail : Covers (before ++ gap ++ source ++ left) (before ++ gap ++ source).length spans ts) :
    Covers (before ++ gap ++ source ++ left) before.length
      (((before ++ gap).length, (before ++ gap ++ source).length) :: spans) (t :: ts) := by
  have hspace : Text.slice (before ++ gap ++ source ++ left) before.length
      (before ++ gap).length = gap := by
    simpa using Text.slice_append before gap (source ++ left)
  have hsource : Text.slice (before ++ gap ++ source ++ left) (before ++ gap).length
      (before ++ gap ++ source).length = source := by
    simpa [Nat.add_assoc] using Text.slice_append (before ++ gap) source left
  have hplace : Text.placeAt (before ++ gap ++ source ++ left) (before ++ gap).length =
      Position.start.advance (before ++ gap) := by
    simpa using Text.placeAt_append (before ++ gap) (source ++ left)
  have hfirst : (before ++ gap ++ source ++ left).drop (before ++ gap).length = source ++ left := by
    rw [List.append_assoc, List.drop_left]
  have hpast : (before ++ gap ++ source ++ left).drop (before ++ gap ++ source).length = left :=
    List.drop_left
  have hlength : 0 < source.length := List.length_pos_iff.mpr written.source_ne_nil
  refine .token ?_ ?_ ?_ ?_ ?_ ?_ ?_ tail
  · simp
  · simpa using hlength
  · simp
  · rwa [hfirst, hspace]
  · rwa [hsource]
  · rwa [hpast]
  · rw [place, hplace]

/-- Along the tokens of a text. What comes before it is kept in front, so that offsets count from
the beginning. -/
theorem Tokenizes.covers {previous : Option TokenKind} {position : Position} {text : Text}
    {ts : List Token} (h : Tokenizes previous position text ts) (before : Text)
    (hplace : position = Position.start.advance before) :
    ∃ spans, Covers (before ++ text) before.length spans ts := by
  induction h generalizing before with
  | @ended previous position text space =>
    subst hplace
    have hgap := (splitGap_gap text).1
    rw [space] at hgap
    have hslice : Text.slice (before ++ text) before.length (before ++ text).length = text := by
      simpa using Text.slice_append before text []
    have hend : Text.placeAt (before ++ text) (before ++ text).length =
        (Position.start.advance before).advance text := by
      simpa [Position.advance_append] using Text.placeAt_append (before ++ text) []
    have hcovers : Covers (before ++ text) before.length [] _ :=
      .ended (by simp) (by rwa [hslice])
    exact ⟨[], hend ▸ hcovers⟩
  | @token previous position text gap rest source left c kind ts space scans tail ih =>
    subst hplace
    have hgap := (splitGap_gap text).1
    have htext := (splitGap_text text).1
    rw [space, scans.text] at hgap htext
    obtain ⟨written, maximal, -⟩ := scans.writes gap
    obtain ⟨spans, hcovers⟩ := ih (before ++ gap ++ source)
      (by rw [Position.advance_append, Position.advance_append])
    have hwhole : before ++ text = before ++ gap ++ source ++ left := by
      simp [← htext]
    rw [hwhole]
    refine ⟨_, Covers.cons hgap written maximal ?_ hcovers⟩
    rw [Position.advance_append]

/-- The tokens of a text stand one after the other in spans of it, each at its own place, with gaps
between them, and are closed by one end token. -/
theorem tokenize_covers {text : Text} {ts : List Token} (h : tokenize text = .ok ts) :
    (∃ spans, Covers text 0 spans ts) ∧
      ∃ before position, ts = before ++ [⟨.eof, [], position⟩] ∧ ∀ t ∈ before, t.kind ≠ .eof := by
  have htokens := tokenize_ok_iff.mp h
  obtain ⟨before, hts, hends, -⟩ := htokens.append_newline
  exact ⟨htokens.covers [] rfl, before, _, hts, hends⟩

namespace Scattered

/-- A string over two lines with an escaped quote, a set of characters, and comments. -/
def text : Text :=
  "# x\nWHEN ENDSWITH [a\"] \"b\n\\\"c\" -d2+ 07 # y".toList

def tokens : List Token :=
  [⟨.when, "WHEN".toList, ⟨2, 1⟩⟩, ⟨.endsWith, "ENDSWITH".toList, ⟨2, 6⟩⟩,
    ⟨.literalSet, "a\"".toList, ⟨2, 15⟩⟩, ⟨.string, "b\n\"c".toList, ⟨2, 20⟩⟩,
    ⟨.identifier, "-d2".toList, ⟨3, 6⟩⟩, ⟨.plus, "+".toList, ⟨3, 9⟩⟩,
    ⟨.number, "07".toList, ⟨3, 11⟩⟩, ⟨.eof, [], ⟨3, 17⟩⟩]

theorem tokenized : tokenize text = .ok tokens := by
  cbv

end Scattered

/-- The string ends in the third line, and the tokens behind it stand there. -/
theorem scattered_covered : tokenize Scattered.text = .ok Scattered.tokens ∧
    ∃ spans, Covers Scattered.text 0 spans Scattered.tokens :=
  ⟨Scattered.tokenized, (tokenize_covers Scattered.tokenized).1⟩

end Morphotactics
