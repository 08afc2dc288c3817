import Morphotactics.Grammar.Loading
import Morphotactics.Proofs.Grammar.Spelling
import Morphotactics.Proofs.Stepwise

/-! What the readers of elements and alternatives accept: each gives a part and the tokens that are
left exactly if the tokens before these spell the part. Where a part could go on, what is left has
to begin with a token that ends it. -/
namespace Morphotactics

section Lookahead

@[simp] theorem Tokens.at?_cons {t : Token} {ts : Tokens} {kind : TokenKind} :
    Tokens.at? (t :: ts) kind = decide (t.kind = kind) :=
  rfl

theorem Tokens.at?_of_kind {t : Token} {ts : Tokens} {kind : TokenKind} (h : t.kind = kind) :
    Tokens.at? (t :: ts) kind :=
  decide_eq_true h

theorem Tokens.exists_cons_of_at? {ts : Tokens} {kind : TokenKind} (h : ts.at? kind)
    (hkind : kind ≠ .eof) : ∃ t, t.kind = kind ∧ ts = t :: ts.tail := by
  cases ts with
  | nil => exact absurd rfl (Tokens.ne_nil_of_at? h hkind)
  | cons t rest => exact ⟨t, of_decide_eq_true h, rfl⟩

theorem Tokens.not_at?_of_at? {ts : Tokens} {kind other : TokenKind} (h : ts.at? kind)
    (hne : kind ≠ other) : ¬ ts.at? other := by
  intro hother
  have hkind : ts.current.kind = kind := of_decide_eq_true h
  have hsame : ts.current.kind = other := of_decide_eq_true hother
  exact hne (hkind.symm.trans hsame)

/-- A comma or a closing brace comes next, which ends a definition or an alternative. -/
def Tokens.Closes (ts : Tokens) : Prop :=
  ts.at? .comma ∨ ts.at? .rightBrace

theorem Tokens.Closes.not_at? {ts : Tokens} (h : ts.Closes) {kind : TokenKind}
    (hcomma : kind ≠ .comma) (hbrace : kind ≠ .rightBrace) : ¬ ts.at? kind :=
  h.elim (Tokens.not_at?_of_at? · hcomma.symm) (Tokens.not_at?_of_at? · hbrace.symm)

end Lookahead

variable {ts left : Tokens}

theorem expect_ok_iff {kind : TokenKind} {text : Text} :
    expect kind ts = .ok (text, left) ↔ ∃ t, t.kind = kind ∧ t.text = text ∧ ts = t :: left := by
  cases ts with
  | nil => simp [expect, refuse]
  | cons t rest =>
    by_cases hkind : t.kind = kind <;> simp [expect, refuse, hkind]

theorem expect_cons {t : Token} {kind : TokenKind} (h : t.kind = kind) :
    expect kind (t :: left) = .ok (t.text, left) :=
  expect_ok_iff.mpr ⟨t, h, rfl, rfl⟩

theorem readGloss_ok_iff {gloss : Text × Text} :
    readGloss ts = .ok (gloss, left) ↔ ∃ taken, SpellsGloss taken gloss ∧ ts = taken ++ left := by
  constructor
  · intro h
    obtain ⟨⟨key, ts₁⟩, hkey, h⟩ := bind_eq_ok_iff.mp h
    obtain ⟨⟨mark, ts₂⟩, hmark, h⟩ := bind_eq_ok_iff.mp h
    obtain ⟨⟨text, ts₃⟩, htext, h⟩ := bind_eq_ok_iff.mp h
    obtain ⟨rfl, rfl⟩ := Prod.mk.inj (pure_eq_ok_iff.mp h)
    obtain ⟨key, key_kind, rfl, rfl⟩ := expect_ok_iff.mp hkey
    obtain ⟨mark, mark_kind, -, rfl⟩ := expect_ok_iff.mp hmark
    obtain ⟨text, text_kind, rfl, rfl⟩ := expect_ok_iff.mp htext
    exact ⟨_, .mk key_kind mark_kind text_kind, rfl⟩
  · rintro ⟨_, ⟨name_kind, colon_kind, text_kind⟩, rfl⟩
    exact bind_eq_ok_iff.mpr ⟨_, expect_cons name_kind, bind_eq_ok_iff.mpr
      ⟨_, expect_cons colon_kind, bind_eq_ok_iff.mpr ⟨_, expect_cons text_kind, rfl⟩⟩⟩

theorem readGlosses_eq (ts : Tokens) : readGlosses ts = do
    let (gloss, ts) ← readGloss ts
    if ts.at? .comma then
      let (more, ts) ← readGlosses ts.tail
      return (gloss :: more, ts)
    else return ([gloss], ts) := by
  rw [readGlosses]
  cases readGloss ts <;> rfl

theorem readGlosses_sound {glosses : List (Text × Text)}
    (h : readGlosses ts = .ok (glosses, left)) :
    ∃ taken, Listed SpellsGloss taken glosses ∧ ts = taken ++ left := by
  fun_induction readGlosses ts generalizing glosses with
  | case1 => cases h
  | case2 ts gloss ts' hg hcomma ih =>
    obtain ⟨⟨more, rest⟩, hr, h⟩ := bind_eq_ok_iff.mp h
    obtain ⟨rfl, rfl⟩ := Prod.mk.inj (pure_eq_ok_iff.mp h)
    obtain ⟨taken, hgloss, rfl⟩ := readGloss_ok_iff.mp hg
    obtain ⟨comma, comma_kind, hts'⟩ := Tokens.exists_cons_of_at? hcomma (by decide)
    obtain ⟨others, hothers, htail⟩ := ih hr
    refine ⟨_, .cons hgloss comma_kind hothers, ?_⟩
    rw [hts', htail, List.append_assoc, List.cons_append]
  | case3 ts gloss ts' hg =>
    obtain ⟨rfl, rfl⟩ := Prod.mk.inj (Except.ok.inj h)
    obtain ⟨taken, hgloss, rfl⟩ := readGloss_ok_iff.mp hg
    exact ⟨_, .single hgloss, rfl⟩

theorem readGlosses_complete {glosses : List (Text × Text)} (h : Listed SpellsGloss ts glosses)
    (hleft : ¬ left.at? .comma) : readGlosses (ts ++ left) = .ok (glosses, left) := by
  induction h with
  | single first =>
    rw [readGlosses_eq]
    refine bind_eq_ok_iff.mpr ⟨_, readGloss_ok_iff.mpr ⟨_, first, rfl⟩, ?_⟩
    dsimp only
    rw [if_neg hleft]
    rfl
  | @cons ts more comma gloss rest first comma_kind others ih =>
    rw [readGlosses_eq, List.append_assoc]
    refine bind_eq_ok_iff.mpr ⟨_, readGloss_ok_iff.mpr ⟨_, first, rfl⟩, ?_⟩
    have hcomma : Tokens.at? (comma :: more ++ left) .comma := Tokens.at?_of_kind comma_kind
    dsimp only
    rw [if_pos hcomma]
    exact bind_eq_ok_iff.mpr ⟨_, ih, rfl⟩

theorem readElement_sound {e : Element} (h : readElement ts = .ok (e, left)) :
    ∃ taken, SpellsElement taken e ∧ ts = taken ++ left := by
  induction ts generalizing e left with
  | nil => cases h
  | cons t ts ih =>
    unfold readElement at h
    split at h
    · rename_i opening_kind
      obtain ⟨⟨glosses, ts₁⟩, hglosses, h⟩ := bind_eq_ok_iff.mp h
      obtain ⟨⟨mark, ts₂⟩, hclosing, h⟩ := bind_eq_ok_iff.mp h
      obtain ⟨rfl, rfl⟩ := Prod.mk.inj (pure_eq_ok_iff.mp h)
      obtain ⟨taken, hlisted, rfl⟩ := readGlosses_sound hglosses
      obtain ⟨closing, closing_kind, -, rfl⟩ := expect_ok_iff.mp hclosing
      refine ⟨_, .glossed opening_kind hlisted (Table.collects_ofList glosses) closing_kind, ?_⟩
      simp
    · rename_i opening_kind
      obtain ⟨⟨child, ts₁⟩, hchild, h⟩ := bind_eq_ok_iff.mp h
      obtain ⟨⟨mark, ts₂⟩, hclosing, h⟩ := bind_eq_ok_iff.mp h
      obtain ⟨rfl, rfl⟩ := Prod.mk.inj (pure_eq_ok_iff.mp h)
      obtain ⟨taken, hinner, rfl⟩ := ih hchild
      obtain ⟨closing, closing_kind, -, rfl⟩ := expect_ok_iff.mp hclosing
      refine ⟨_, .optional opening_kind hinner closing_kind, ?_⟩
      simp
    · rename_i mark_kind
      obtain ⟨⟨name, ts₁⟩, hname, h⟩ := bind_eq_ok_iff.mp h
      obtain ⟨rfl, rfl⟩ := Prod.mk.inj (pure_eq_ok_iff.mp h)
      obtain ⟨name, name_kind, rfl, rfl⟩ := expect_ok_iff.mp hname
      exact ⟨_, .setRef mark_kind name_kind, rfl⟩
    · rename_i word_kind
      obtain ⟨rfl, rfl⟩ := Prod.mk.inj (Except.ok.inj h)
      exact ⟨_, .literal word_kind, rfl⟩
    · cases h

theorem readElement_complete {e : Element} (h : SpellsElement ts e) (left : Tokens) :
    readElement (ts ++ left) = .ok (e, left) := by
  induction h generalizing left with
  | literal word_kind => simp [readElement, word_kind]
  | setRef mark_kind name_kind =>
    simp only [List.cons_append, List.nil_append, readElement, mark_kind]
    exact bind_eq_ok_iff.mpr ⟨_, expect_cons name_kind, rfl⟩
  | optional opening_kind inner closing_kind ih =>
    simp only [List.cons_append, List.append_assoc, List.nil_append, readElement, opening_kind]
    exact bind_eq_ok_iff.mpr ⟨_, ih _, bind_eq_ok_iff.mpr ⟨_, expect_cons closing_kind, rfl⟩⟩
  | @glossed opening closing ts glosses table opening_kind inner collects closing_kind =>
    have hglosses : readGlosses (ts ++ closing :: left) = .ok (glosses, closing :: left) :=
      readGlosses_complete inner (by simp [closing_kind])
    obtain rfl := collects.unique (Table.collects_ofList glosses)
    simp only [List.cons_append, List.append_assoc, List.nil_append, readElement, opening_kind]
    exact bind_eq_ok_iff.mpr ⟨_, hglosses, bind_eq_ok_iff.mpr ⟨_, expect_cons closing_kind, rfl⟩⟩

theorem SpellsElement.not_closes {e : Element} (h : SpellsElement ts e) (left : Tokens) :
    ¬ (ts ++ left).Closes ∧ ¬ (ts ++ left).at? .plus := by
  cases h with
  | literal kind | setRef kind | optional kind | glossed kind =>
    simp [Tokens.Closes, kind]

theorem readAlternative_eq (ts : Tokens) : readAlternative ts =
    if ts.at? .comma || ts.at? .rightBrace then .ok ([], ts)
    else do
      let (e, ts) ← readElement ts
      let (more, ts) ← readAlternative (skipPlus ts)
      return (e :: more, ts) := by
  rw [readAlternative]
  cases readElement ts <;> rfl

theorem closes_iff : (ts.at? .comma || ts.at? .rightBrace) = true ↔ ts.Closes :=
  Bool.or_eq_true_iff

theorem readAlternative_sound {a : Alternative} (h : readAlternative ts = .ok (a, left)) :
    (∃ taken, SpellsAlternative taken a ∧ ts = taken ++ left) ∧ left.Closes := by
  fun_induction readAlternative ts generalizing a with
  | case1 ts hcloses =>
    obtain ⟨rfl, rfl⟩ := Prod.mk.inj (Except.ok.inj h)
    exact ⟨⟨_, .nil, rfl⟩, closes_iff.mp hcloses⟩
  | case2 => cases h
  | case3 ts _ e ts' he ih =>
    obtain ⟨⟨more, rest⟩, hr, h⟩ := bind_eq_ok_iff.mp h
    obtain ⟨rfl, rfl⟩ := Prod.mk.inj (pure_eq_ok_iff.mp h)
    obtain ⟨taken, helement, rfl⟩ := readElement_sound he
    obtain ⟨⟨others, hothers, hskip⟩, hcloses⟩ := ih hr
    refine ⟨?_, hcloses⟩
    by_cases hplus : ts'.at? .plus
    · obtain ⟨plus, plus_kind, hts'⟩ := Tokens.exists_cons_of_at? hplus (by decide)
      rw [skipPlus, if_pos hplus] at hskip
      refine ⟨_, .plus helement plus_kind hothers, ?_⟩
      rw [hts', hskip, List.append_assoc, List.cons_append]
    · rw [skipPlus, if_neg hplus] at hskip
      exact ⟨_, .cons helement hothers, by rw [hskip, List.append_assoc]⟩

theorem SpellsAlternative.not_at?_plus {a : Alternative} (h : SpellsAlternative ts a)
    (hleft : left.Closes) : ¬ (ts ++ left).at? .plus := by
  cases h with
  | nil => exact hleft.not_at? (by decide) (by decide)
  | cons first _ | plus first _ _ =>
    rw [List.append_assoc]
    exact (first.not_closes _).2

theorem readAlternative_complete {a : Alternative} (h : SpellsAlternative ts a)
    (hleft : left.Closes) : readAlternative (ts ++ left) = .ok (a, left) := by
  induction h with
  | nil => rw [readAlternative_eq, List.nil_append, if_pos (closes_iff.mpr hleft)]
  | @cons ts more e rest first others ih =>
    rw [readAlternative_eq, List.append_assoc,
      if_neg (closes_iff.not.mpr (first.not_closes _).1)]
    refine bind_eq_ok_iff.mpr ⟨_, readElement_complete first _, ?_⟩
    dsimp only
    rw [skipPlus, if_neg (others.not_at?_plus hleft)]
    exact bind_eq_ok_iff.mpr ⟨_, ih, rfl⟩
  | @plus ts more plus e rest first plus_kind others ih =>
    rw [readAlternative_eq, List.append_assoc,
      if_neg (closes_iff.not.mpr (first.not_closes _).1)]
    have hplus : Tokens.at? (plus :: more ++ left) .plus := Tokens.at?_of_kind plus_kind
    refine bind_eq_ok_iff.mpr ⟨_, readElement_complete first _, ?_⟩
    dsimp only
    rw [skipPlus, if_pos hplus]
    exact bind_eq_ok_iff.mpr ⟨_, ih, rfl⟩

theorem Listed.ne_nil {α : Type} {spells : Tokens → α → Prop} {all : List α}
    (h : Listed spells ts all) : all ≠ [] := by
  cases h <;> exact List.cons_ne_nil _ _

theorem withoutEmptyLast_cons {a : Alternative} {rest : List Alternative} (hne : rest ≠ [])
    (hlast : rest ≠ [[]]) : withoutEmptyLast (a :: rest) = a :: withoutEmptyLast rest := by
  obtain ⟨b, others, rfl⟩ := List.exists_cons_of_ne_nil hne
  cases others with
  | nil =>
    have hb : b ≠ [] := by simpa using hlast
    simp [withoutEmptyLast, hb]
  | cons c others =>
    rw [withoutEmptyLast, withoutEmptyLast, List.getLast?_cons_cons]
    by_cases h : (b :: c :: others).getLast? = some []
    · rw [if_pos ⟨by simp, h⟩, if_pos ⟨by simp, h⟩]
      rfl
    · rw [if_neg fun hboth => h hboth.2, if_neg fun hboth => h hboth.2]

theorem readAlternatives_eq (ts : Tokens) : readAlternatives ts = do
    let (a, ts) ← readAlternative ts
    if ts.at? .comma then
      if Tokens.at? ts.tail .rightBrace then return ([a], ts.tail)
      else
        let (more, ts) ← readAlternatives ts.tail
        return (a :: more, ts)
    else return ([a], ts) := by
  rw [readAlternatives]
  cases readAlternative ts <;> rfl

/-- A single alternative that is empty is read only from a closing brace. -/
theorem readAlternatives_sound {alternatives : List Alternative}
    (h : readAlternatives ts = .ok (alternatives, left)) :
    ∃ taken all, Listed SpellsAlternative taken all ∧ ts = taken ++ left ∧
      alternatives = withoutEmptyLast all ∧ left.at? .rightBrace ∧
        (all = [[]] → ts.at? .rightBrace) := by
  fun_induction readAlternatives ts generalizing alternatives with
  | case1 => cases h
  | case2 ts a ts' ha hcomma hbrace =>
    obtain ⟨rfl, rfl⟩ := Prod.mk.inj (Except.ok.inj h)
    obtain ⟨⟨taken, halternative, rfl⟩, -⟩ := readAlternative_sound ha
    obtain ⟨comma, comma_kind, hts'⟩ := Tokens.exists_cons_of_at? hcomma (by decide)
    refine ⟨_, _, .cons halternative comma_kind (.single .nil), ?_, ?_, hbrace, ?_⟩
    · rw [List.append_assoc, List.cons_append, List.nil_append, ← hts']
    · simp [withoutEmptyLast]
    · simp
  | case3 ts a ts' ha hcomma hbrace ih =>
    obtain ⟨⟨more, rest⟩, hr, h⟩ := bind_eq_ok_iff.mp h
    obtain ⟨rfl, rfl⟩ := Prod.mk.inj (pure_eq_ok_iff.mp h)
    obtain ⟨⟨taken, halternative, rfl⟩, -⟩ := readAlternative_sound ha
    obtain ⟨comma, comma_kind, hts'⟩ := Tokens.exists_cons_of_at? hcomma (by decide)
    obtain ⟨others, all, hothers, htail, rfl, hleft, hsingle⟩ := ih hr
    have hlast : all ≠ [[]] := fun hall => hbrace (hsingle hall)
    refine ⟨_, _, .cons halternative comma_kind hothers, ?_, ?_, hleft, ?_⟩
    · rw [hts', htail, List.append_assoc, List.cons_append]
    · rw [withoutEmptyLast_cons hothers.ne_nil hlast]
    · simp [hothers.ne_nil]
  | case4 ts a ts' ha hcomma =>
    obtain ⟨rfl, rfl⟩ := Prod.mk.inj (Except.ok.inj h)
    obtain ⟨⟨taken, halternative, rfl⟩, hcloses⟩ := readAlternative_sound ha
    have hleft := hcloses.resolve_left hcomma
    refine ⟨_, _, .single halternative, rfl, by simp [withoutEmptyLast], hleft, ?_⟩
    rintro hall
    obtain rfl : a = [] := by simpa using hall
    cases halternative
    exact hleft

theorem Listed.eq_nil_of_at?_rightBrace {all : List Alternative}
    (h : Listed SpellsAlternative ts all) (hbrace : (ts ++ left).at? .rightBrace) :
    ts = [] ∧ all = [[]] := by
  cases h with
  | single first =>
    cases first with
    | nil => exact ⟨rfl, rfl⟩
    | cons first others | plus first _ others =>
      rw [List.append_assoc] at hbrace
      exact absurd (.inr hbrace) (first.not_closes _).1
  | cons first comma_kind others =>
    cases first with
    | nil =>
      rw [List.nil_append, List.cons_append, Tokens.at?_cons, comma_kind] at hbrace
      cases hbrace
    | cons first others | plus first _ others =>
      rw [List.append_assoc, List.append_assoc] at hbrace
      exact absurd (.inr hbrace) (first.not_closes _).1

theorem readAlternatives_complete {all : List Alternative} (h : Listed SpellsAlternative ts all)
    (hleft : left.at? .rightBrace) :
    readAlternatives (ts ++ left) = .ok (withoutEmptyLast all, left) := by
  induction h with
  | single first =>
    rw [readAlternatives_eq]
    refine bind_eq_ok_iff.mpr ⟨_, readAlternative_complete first (.inr hleft), ?_⟩
    dsimp only
    rw [if_neg (Tokens.not_at?_of_at? hleft (by decide))]
    rfl
  | @cons ts more comma a rest first comma_kind others ih =>
    rw [readAlternatives_eq, List.append_assoc]
    have hcomma : Tokens.at? (comma :: more ++ left) .comma := Tokens.at?_of_kind comma_kind
    refine bind_eq_ok_iff.mpr ⟨_, readAlternative_complete first (.inl hcomma), ?_⟩
    dsimp only
    rw [if_pos hcomma, List.cons_append, List.tail_cons]
    by_cases hbrace : (more ++ left).at? .rightBrace
    · obtain ⟨rfl, rfl⟩ := others.eq_nil_of_at?_rightBrace hbrace
      rw [if_pos hbrace]
      simp [withoutEmptyLast]
    · have hlast : rest ≠ [[]] := by
        rintro rfl
        cases others with
        | single first =>
          cases first
          exact hbrace hleft
        | cons _ _ others => exact others.ne_nil rfl
      rw [if_neg hbrace, withoutEmptyLast_cons others.ne_nil hlast]
      exact bind_eq_ok_iff.mpr ⟨_, ih, rfl⟩

end Morphotactics
