import Morphotactics.Proofs.Token.Gap

/-! Texts that are written from tokens, and that the tokens are read back from them. -/
namespace Morphotactics

/-- A token without its place. -/
abbrev Unplaced := TokenKind × Text

def Token.unplaced (t : Token) : Unplaced :=
  (t.kind, t.text)

/-- A text in which the tokens are written one after the other, with gaps that keep them apart. -/
inductive Rendered : Option TokenKind → Text → List Unplaced → Prop
  | nil {previous : Option TokenKind} {gap : Text} (space : Gap [] gap) : Rendered previous gap []
  | cons {previous : Option TokenKind} {kind : TokenKind} {gap source value left : Text}
      {rest : List Unplaced} (space : Gap (source ++ left) gap) (written : Writes kind source value)
      (maximal : Maximal kind left) (fits : Fits previous kind)
      (tail : Rendered (some kind) left rest) :
      Rendered previous (gap ++ (source ++ left)) ((kind, value) :: rest)

/-- What has been written is read back. -/
theorem Rendered.tokenizes {previous : Option TokenKind} {text : Text} {all : List Unplaced}
    (h : Rendered previous text all) (position : Position) :
    ∃ ts place, Tokenizes previous position text (ts ++ [⟨.eof, [], place⟩]) ∧
      ts.map Token.unplaced = all := by
  induction h generalizing position with
  | nil space =>
    have hgap := splitGap_of_gap space (by simp)
    rw [List.append_nil] at hgap
    exact ⟨[], _, .ended hgap, rfl⟩
  | @cons previous kind gap source value left rest space written maximal fits _ ih =>
    obtain ⟨c, more, htext, hscans⟩ := scans_of_writes written maximal fits
    have hhead : ∀ d ∈ (source ++ left).head?, isBlank d = false ∧ d ≠ '#' := by
      intro d hd
      obtain ⟨first, others, hsource⟩ := List.exists_cons_of_ne_nil written.source_ne_nil
      rw [hsource] at hd
      exact written.head d (hsource ▸ hd)
    have hgap := splitGap_of_gap space hhead
    rw [htext] at hgap ⊢
    obtain ⟨ts, place, htail, rfl⟩ := ih ((position.advance gap).advance source)
    refine ⟨_ :: ts, place, .token hgap hscans htail, ?_⟩
    simp [Token.unplaced, written.value_eq]

/-- Tokens of which each can be written, where only the kinds that take a set are followed by one,
and none of them by a bracket or by nothing. -/
inductive Printable : List Unplaced → Prop
  | nil : Printable []
  | token {kind : TokenKind} {source value : Text} {rest : List Unplaced}
      (written : Writes kind source value) (no_set : kind ≠ .literalSet)
      (takes : kind.takesSet = false) (tail : Printable rest) : Printable ((kind, value) :: rest)
  | operand {kind operand : TokenKind} {source value inner asked : Text} {rest : List Unplaced}
      (written : Writes kind source value) (no_set : kind ≠ .literalSet)
      (takes : kind.takesSet = true) (written_operand : Writes operand inner asked)
      (is_operand : operand = .literalSet ∨ operand = .pattern) (tail : Printable rest) :
      Printable ((kind, value) :: (operand, asked) :: rest)

theorem Printable.append {all more : List Unplaced} (h : Printable all) (hmore : Printable more) :
    Printable (all ++ more) := by
  induction h with
  | nil => exact hmore
  | token written no_set takes _ ih => exact .token written no_set takes ih
  | operand written no_set takes written_operand is_operand _ ih =>
    exact .operand written no_set takes written_operand is_operand ih

/-- Each token has its source. -/
abbrev Sourced (sources : List Text) (all : List Unplaced) : Prop :=
  List.Forall₂ (fun source t => Writes t.1 source t.2) sources all

theorem Printable.exists_sourced {all : List Unplaced} (h : Printable all) :
    ∃ sources, Sourced sources all := by
  induction h with
  | nil => exact ⟨[], .nil⟩
  | token written _ _ _ ih =>
    obtain ⟨sources, hsources⟩ := ih
    exact ⟨_, .cons written hsources⟩
  | operand written _ _ written_operand _ _ ih =>
    obtain ⟨sources, hsources⟩ := ih
    exact ⟨_, .cons written (.cons written_operand hsources)⟩

/-- Sources with a space in front of each. -/
def spaced (sources : List Text) : Text :=
  sources.flatMap (' ' :: ·)

/-- No word or number goes on with a space, or at the end. -/
theorem maximal_spaced (sources : List Text) (kind : TokenKind) : Maximal kind (spaced sources) := by
  cases sources with
  | nil => simp [spaced, Maximal]
  | cons source rest =>
    have hgap : Gap (source ++ spaced rest) [' '] := .blank (by cbv) .nil
    exact hgap.maximal (List.cons_ne_nil _ _) kind _

/-- One more token, with a space in front of it. -/
theorem Rendered.space {previous : Option TokenKind} {kind : TokenKind} {source value : Text}
    {sources : List Text} {rest : List Unplaced} (tail : Rendered (some kind) (spaced sources) rest)
    (written : Writes kind source value) (fits : Fits previous kind) :
    Rendered previous (spaced (source :: sources)) ((kind, value) :: rest) :=
  .cons (.blank (by cbv) .nil) written (maximal_spaced sources kind) fits tail

/-- Sources with spaces between them stand for their tokens. -/
theorem Printable.rendered {all : List Unplaced} (h : Printable all) {sources : List Text}
    (hsources : Sourced sources all) (previous : Option TokenKind)
    (hprevious : previous.any TokenKind.takesSet = false) :
    Rendered previous (spaced sources) all := by
  have hfits : ∀ {before : Option TokenKind} {kind : TokenKind}, kind ≠ .literalSet →
      before.any TokenKind.takesSet = false → Fits before kind :=
    fun hset hbefore => ⟨fun hkind => absurd hkind hset, fun _ => hbefore⟩
  induction h generalizing sources previous with
  | nil =>
    cases hsources
    exact .nil .nil
  | @token kind _ _ _ _ no_set takes _ ih =>
    obtain _ | ⟨written, hsources⟩ := hsources
    exact (ih hsources (some kind) takes).space written (hfits no_set hprevious)
  | @operand kind operand _ _ _ _ _ _ no_set takes _ is_operand _ ih =>
    obtain _ | ⟨written, _ | ⟨written_operand, hsources⟩⟩ := hsources
    have hoperand : operand.takesSet = false ∧ Fits (some kind) operand := by
      obtain rfl | rfl := is_operand
      · exact ⟨rfl, fun _ => takes, nofun⟩
      · exact ⟨rfl, nofun, nofun⟩
    have hrest := (ih hsources (some operand) hoperand.1).space written_operand hoperand.2
    exact hrest.space written (hfits no_set hprevious)

end Morphotactics
