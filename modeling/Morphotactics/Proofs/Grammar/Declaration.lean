import Morphotactics.Proofs.Grammar.Definition

/-! What the readers of declarations accept. -/
namespace Morphotactics

variable {ts left : Tokens}

theorem readDescription_sound {description : Text}
    (h : readDescription ts = .ok (description, left)) :
    ∃ taken, SpellsDescription taken description ∧ ts = taken ++ left := by
  unfold readDescription at h
  split_ifs at h
  · obtain ⟨⟨mark, rest⟩, hcolon, htext⟩ := bind_eq_ok_iff.mp h
    obtain ⟨colon, colon_kind, -, rfl⟩ := expect_ok_iff.mp hcolon
    obtain ⟨text, text_kind, rfl, rfl⟩ := expect_ok_iff.mp htext
    exact ⟨_, .some colon_kind text_kind, rfl⟩
  · obtain ⟨rfl, rfl⟩ := Prod.mk.inj (Except.ok.inj h)
    exact ⟨_, .none, rfl⟩

theorem readDescription_complete {description : Text} (h : SpellsDescription ts description)
    (hleft : left.at? .leftBrace) : readDescription (ts ++ left) = .ok (description, left) := by
  cases h with
  | none =>
    have hcolon : ¬ left.at? .colon := Tokens.not_at?_of_at? hleft (by decide)
    rw [List.nil_append, readDescription, if_neg hcolon]
  | some colon_kind text_kind =>
    rw [List.cons_append, readDescription, if_pos (Tokens.at?_of_kind colon_kind)]
    exact bind_eq_ok_iff.mpr ⟨_, expect_cons colon_kind, expect_cons text_kind⟩

theorem readHeader_ok_iff {keyword : TokenKind} {header : Text × Text} :
    readHeader keyword ts = .ok (header, left) ↔
      ∃ taken, SpellsHeader keyword taken header ∧ ts = taken ++ left := by
  constructor
  · intro h
    obtain ⟨⟨word, ts₁⟩, hword, h⟩ := bind_eq_ok_iff.mp h
    obtain ⟨⟨name, ts₂⟩, hname, h⟩ := bind_eq_ok_iff.mp h
    obtain ⟨⟨description, ts₃⟩, hdescription, h⟩ := bind_eq_ok_iff.mp h
    obtain ⟨⟨mark, ts₄⟩, hopening, h⟩ := bind_eq_ok_iff.mp h
    obtain ⟨rfl, rfl⟩ := Prod.mk.inj (pure_eq_ok_iff.mp h)
    obtain ⟨word, word_kind, -, rfl⟩ := expect_ok_iff.mp hword
    obtain ⟨name, name_kind, rfl, rfl⟩ := expect_ok_iff.mp hname
    obtain ⟨taken, described, rfl⟩ := readDescription_sound hdescription
    obtain ⟨opening, opening_kind, -, rfl⟩ := expect_ok_iff.mp hopening
    exact ⟨_, .mk word_kind name_kind described opening_kind, by simp⟩
  · rintro ⟨_, ⟨word_kind, name_kind, described, opening_kind⟩, rfl⟩
    simp only [List.cons_append, List.append_assoc, List.nil_append]
    exact bind_eq_ok_iff.mpr ⟨_, expect_cons word_kind, bind_eq_ok_iff.mpr
      ⟨_, expect_cons name_kind, bind_eq_ok_iff.mpr
        ⟨_, readDescription_complete described (Tokens.at?_of_kind opening_kind),
          bind_eq_ok_iff.mpr ⟨_, expect_cons opening_kind, rfl⟩⟩⟩⟩

theorem SpellsHeader.at? {keyword : TokenKind} {header : Text × Text}
    (h : SpellsHeader keyword ts header) (left : Tokens) : (ts ++ left).at? keyword := by
  cases h with
  | mk word_kind => exact Tokens.at?_of_kind word_kind

theorem readDeclaration_sound {d : Declaration} (h : readDeclaration ts = .ok (d, left)) :
    ∃ taken, SpellsDeclaration taken d ∧ ts = taken ++ left := by
  unfold readDeclaration at h
  split_ifs at h
  · obtain ⟨⟨⟨name, description⟩, ts₁⟩, hheader, h⟩ := bind_eq_ok_iff.mp h
    dsimp only at h
    obtain ⟨ts₂, hending, h⟩ := bind_eq_ok_iff.mp h
    obtain ⟨⟨mark, ts₃⟩, hclosing, h⟩ := bind_eq_ok_iff.mp h
    obtain ⟨rfl, rfl⟩ := Prod.mk.inj (pure_eq_ok_iff.mp h)
    obtain ⟨head, header, rfl⟩ := readHeader_ok_iff.mp hheader
    obtain ⟨taken, body, rfl, -⟩ := readDefinitions_sound hending
    obtain ⟨closing, closing_kind, -, rfl⟩ := expect_ok_iff.mp hclosing
    exact ⟨_, .set header body closing_kind, by simp⟩
  · obtain ⟨⟨⟨name, description⟩, ts₁⟩, hheader, h⟩ := bind_eq_ok_iff.mp h
    obtain ⟨⟨alternatives, ts₂⟩, halternatives, h⟩ := bind_eq_ok_iff.mp h
    obtain ⟨⟨mark, ts₃⟩, hclosing, h⟩ := bind_eq_ok_iff.mp h
    obtain ⟨rfl, rfl⟩ := Prod.mk.inj (pure_eq_ok_iff.mp h)
    obtain ⟨head, header, rfl⟩ := readHeader_ok_iff.mp hheader
    obtain ⟨taken, all, body, rfl, rfl, -⟩ := readAlternatives_sound halternatives
    obtain ⟨closing, closing_kind, -, rfl⟩ := expect_ok_iff.mp hclosing
    exact ⟨_, .rule header body closing_kind, by simp⟩
  · cases h

/-- A declaration is complete with its closing brace, whatever follows. -/
theorem readDeclaration_complete {d : Declaration} (h : SpellsDeclaration ts d)
    (left : Tokens) : readDeclaration (ts ++ left) = .ok (d, left) := by
  cases h with
  | @set head ts closing name description definitions header body closing_kind =>
    have hdefinitions : readDefinitions (ts ++ closing :: left) =
        (definitions, .ok (closing :: left)) :=
      readDefinitions_complete body (Tokens.at?_of_kind closing_kind)
    rw [List.append_assoc, List.append_assoc, readDeclaration, if_pos (header.at? _)]
    refine bind_eq_ok_iff.mpr ⟨_, readHeader_ok_iff.mpr ⟨_, header, rfl⟩, ?_⟩
    dsimp only [List.singleton_append]
    rw [hdefinitions]
    exact bind_eq_ok_iff.mpr ⟨_, rfl, bind_eq_ok_iff.mpr ⟨_, expect_cons closing_kind, rfl⟩⟩
  | @rule head ts closing name description alternatives header body closing_kind =>
    have halternatives : readAlternatives (ts ++ closing :: left) =
        .ok (withoutEmptyLast alternatives, closing :: left) :=
      readAlternatives_complete body (Tokens.at?_of_kind closing_kind)
    have hrule := header.at? (ts ++ closing :: left)
    rw [List.append_assoc, List.append_assoc, List.singleton_append, readDeclaration,
      if_neg (Tokens.not_at?_of_at? hrule (by decide)), if_pos hrule]
    exact bind_eq_ok_iff.mpr ⟨_, readHeader_ok_iff.mpr ⟨_, header, rfl⟩, bind_eq_ok_iff.mpr
      ⟨_, halternatives, bind_eq_ok_iff.mpr ⟨_, expect_cons closing_kind, rfl⟩⟩⟩

theorem SpellsDeclaration.not_at?_eof {d : Declaration} (h : SpellsDeclaration ts d)
    (left : Tokens) : ¬ (ts ++ left).at? .eof := by
  cases h with
  | set header | rule header =>
    rw [List.append_assoc, List.append_assoc]
    exact Tokens.not_at?_of_at? (header.at? _) (by decide)

theorem readDeclarations_sound (h : (readDeclarations ts).ending = .ok ()) :
    ∃ taken left, SpellsDeclarations taken (readDeclarations ts).declarations ∧
      ts = taken ++ left ∧ left.at? .eof := by
  fun_induction readDeclarations ts with
  | case1 ts hend => exact ⟨[], ts, .nil, rfl, hend⟩
  | case2 => cases h
  | case3 ts _ d rest hd more ih =>
    obtain ⟨others, left, hothers, rfl, hend⟩ := ih h
    obtain ⟨taken, hdeclaration, rfl⟩ := readDeclaration_sound hd
    exact ⟨_, left, .cons hdeclaration hothers, by rw [List.append_assoc], hend⟩

theorem readDeclarations_eq (ts : Tokens) : readDeclarations ts =
    if ts.at? .eof then ⟨[], none, .ok ()⟩
    else match readDeclaration ts with
      | .error e => ⟨[], readUnfinished ts, .error e⟩
      | .ok (d, left) =>
        { readDeclarations left with declarations := d :: (readDeclarations left).declarations } := by
  rw [readDeclarations]
  cases readDeclaration ts <;> rfl

/-- Tokens that spell declarations are read off the front of any others. -/
theorem readDeclarations_append {ds : List Declaration} (h : SpellsDeclarations ts ds)
    (left : Tokens) : readDeclarations (ts ++ left) =
      { readDeclarations left with declarations := ds ++ (readDeclarations left).declarations } := by
  induction h with
  | nil => rfl
  | @cons ts more d rest first others ih =>
    rw [List.append_assoc, readDeclarations_eq, if_neg (first.not_at?_eof _),
      readDeclaration_complete first]
    dsimp only
    rw [ih]
    rfl

end Morphotactics
