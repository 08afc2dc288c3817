import Morphotactics.Proofs.Grammar.Alternative

/-! What the readers of suffix definitions and their conditions accept. -/
namespace Morphotactics

variable {ts left : Tokens}

theorem readOperand_sound {kind : ConditionKind} {c : Condition}
    (h : readOperand kind ts = .ok (c, left)) :
    ∃ operand, SpellsOperand kind operand c ∧ ts = operand :: left := by
  unfold readOperand at h
  split_ifs at h
  · obtain ⟨⟨characters, rest⟩, he, h⟩ := bind_eq_ok_iff.mp h
    obtain ⟨rfl, rfl⟩ := Prod.mk.inj (pure_eq_ok_iff.mp h)
    obtain ⟨set, set_kind, rfl, rfl⟩ := expect_ok_iff.mp he
    exact ⟨_, .characters set_kind, rfl⟩
  · obtain ⟨⟨pattern, rest⟩, he, h⟩ := bind_eq_ok_iff.mp h
    obtain ⟨rfl, rfl⟩ := Prod.mk.inj (pure_eq_ok_iff.mp h)
    obtain ⟨pattern, pattern_kind, rfl, rfl⟩ := expect_ok_iff.mp he
    exact ⟨_, .pattern pattern_kind, rfl⟩
  · cases h

theorem readOperand_complete {kind : ConditionKind} {operand : Token} {c : Condition}
    (h : SpellsOperand kind operand c) (left : Tokens) :
    readOperand kind (operand :: left) = .ok (c, left) := by
  cases h with
  | characters set_kind =>
    rw [readOperand, if_pos (Tokens.at?_of_kind set_kind)]
    exact bind_eq_ok_iff.mpr ⟨_, expect_cons set_kind, rfl⟩
  | pattern pattern_kind =>
    have hset : ¬ Tokens.at? (operand :: left) .literalSet := by simp [pattern_kind]
    rw [readOperand, if_neg hset, if_pos (Tokens.at?_of_kind pattern_kind)]
    exact bind_eq_ok_iff.mpr ⟨_, expect_cons pattern_kind, rfl⟩

/-- A token that begins what a condition asks. -/
def TokenKind.asks (kind : TokenKind) : Prop :=
  kind = .endsWith ∨ kind = .startsWith ∨ kind = .isVowel ∨ kind = .isConsonant

theorem Tokens.eq_cons_tail {ts : Tokens} {kind : TokenKind} (h : ts.current.kind = kind)
    (hkind : kind ≠ .eof) : ∃ t, t.kind = kind ∧ ts = t :: ts.tail :=
  Tokens.exists_cons_of_at? (decide_eq_true h) hkind

theorem readGuard_sound {c : Condition} (h : readGuard ts = .ok (c, left)) :
    ∃ taken, SpellsGuard taken c ∧ ts = taken ++ left := by
  unfold readGuard at h
  split at h
  · rename_i hkind
    obtain ⟨word, word_kind, hts⟩ := Tokens.eq_cons_tail hkind (by decide)
    obtain ⟨operand, asked, htail⟩ := readOperand_sound h
    exact ⟨_, .endsWith word_kind asked, by rw [hts, htail]; rfl⟩
  · rename_i hkind
    obtain ⟨word, word_kind, hts⟩ := Tokens.eq_cons_tail hkind (by decide)
    obtain ⟨operand, asked, htail⟩ := readOperand_sound h
    exact ⟨_, .startsWith word_kind asked, by rw [hts, htail]; rfl⟩
  · rename_i hkind
    obtain ⟨word, word_kind, hts⟩ := Tokens.eq_cons_tail hkind (by decide)
    obtain ⟨rfl, rfl⟩ := Prod.mk.inj (Except.ok.inj h)
    exact ⟨_, .isVowel word_kind, hts⟩
  · rename_i hkind
    obtain ⟨word, word_kind, hts⟩ := Tokens.eq_cons_tail hkind (by decide)
    obtain ⟨rfl, rfl⟩ := Prod.mk.inj (Except.ok.inj h)
    exact ⟨_, .isConsonant word_kind, hts⟩
  · obtain ⟨rfl, rfl⟩ := Prod.mk.inj (Except.ok.inj h)
    exact ⟨_, .always, rfl⟩

theorem readGuard_complete {c : Condition} (h : SpellsGuard ts c)
    (hleft : ¬ left.current.kind.asks) : readGuard (ts ++ left) = .ok (c, left) := by
  cases h with
  | always =>
    unfold readGuard
    split
    · rename_i hkind
      exact absurd (.inl hkind) hleft
    · rename_i hkind
      exact absurd (.inr (.inl hkind)) hleft
    · rename_i hkind
      exact absurd (.inr (.inr (.inl hkind))) hleft
    · rename_i hkind
      exact absurd (.inr (.inr (.inr hkind))) hleft
    · rfl
  | endsWith word_kind asked | startsWith word_kind asked =>
    simp only [List.cons_append, List.nil_append, readGuard, Tokens.current, List.headD_cons,
      word_kind, List.tail_cons]
    exact readOperand_complete asked left
  | isVowel word_kind | isConsonant word_kind =>
    simp only [List.cons_append, List.nil_append, readGuard, Tokens.current, List.headD_cons,
      word_kind, List.tail_cons]

theorem readChange_sound {asked c : Condition} (h : readChange asked ts = .ok (c, left)) :
    ∃ taken, SpellsChange asked taken c ∧ ts = taken ++ left := by
  unfold readChange at h
  split_ifs at h with hcut hreplace
  · obtain ⟨word, word_kind, hts⟩ := Tokens.exists_cons_of_at? hcut (by decide)
    obtain ⟨⟨spelled, rest⟩, he, h⟩ := bind_eq_ok_iff.mp h
    obtain ⟨number, number_kind, rfl, htail⟩ := expect_ok_iff.mp he
    dsimp only at h
    split at h
    · rename_i n value
      obtain ⟨rfl, rfl⟩ := Prod.mk.inj (pure_eq_ok_iff.mp h)
      exact ⟨_, .cut word_kind number_kind value, by rw [hts, htail]; rfl⟩
    · cases h
  · obtain ⟨word, word_kind, hts⟩ := Tokens.exists_cons_of_at? hreplace (by decide)
    obtain ⟨⟨replacement, rest⟩, he, h⟩ := bind_eq_ok_iff.mp h
    obtain ⟨text, text_kind, rfl, htail⟩ := expect_ok_iff.mp he
    obtain ⟨rfl, rfl⟩ := Prod.mk.inj (pure_eq_ok_iff.mp h)
    exact ⟨_, .replace word_kind text_kind, by rw [hts, htail]; rfl⟩
  · obtain ⟨rfl, rfl⟩ := Prod.mk.inj (Except.ok.inj h)
    exact ⟨_, .none, rfl⟩

theorem readChange_complete {asked c : Condition} (h : SpellsChange asked ts c)
    (hleft : left.Closes) : readChange asked (ts ++ left) = .ok (c, left) := by
  cases h with
  | none =>
    rw [List.nil_append, readChange, if_neg (hleft.not_at? (by decide) (by decide)),
      if_neg (hleft.not_at? (by decide) (by decide))]
  | cut word_kind number_kind value =>
    rw [List.cons_append, readChange, if_pos (Tokens.at?_of_kind word_kind)]
    refine bind_eq_ok_iff.mpr ⟨_, expect_cons number_kind, ?_⟩
    dsimp only
    rw [value]
    rfl
  | @replace word text word_kind text_kind =>
    have hcut : ¬ Tokens.at? (word :: ([text] ++ left)) .cut := by simp [word_kind]
    rw [List.cons_append, readChange, if_neg hcut, if_pos (Tokens.at?_of_kind word_kind)]
    exact bind_eq_ok_iff.mpr ⟨_, expect_cons text_kind, rfl⟩

theorem SpellsChange.not_asks {asked c : Condition} (h : SpellsChange asked ts c)
    (hleft : left.Closes) : ¬ (ts ++ left).current.kind.asks := by
  cases h with
  | none =>
    obtain hkind | hkind := hleft <;> simp [TokenKind.asks, of_decide_eq_true hkind]
  | cut word_kind | replace word_kind => simp [TokenKind.asks, Tokens.current, word_kind]

theorem readCondition_sound {c : Condition} (h : readCondition ts = .ok (c, left)) :
    ∃ taken, SpellsCondition taken c ∧ ts = taken ++ left := by
  unfold readCondition at h
  split_ifs at h with hwhen
  · obtain ⟨word, word_kind, hts⟩ := Tokens.exists_cons_of_at? hwhen (by decide)
    obtain ⟨⟨asked, rest⟩, hguard, h⟩ := bind_eq_ok_iff.mp h
    obtain ⟨taken, guard, htail⟩ := readGuard_sound hguard
    obtain ⟨more, change, rfl⟩ := readChange_sound h
    refine ⟨_, .when word_kind guard change, ?_⟩
    rw [hts, htail, List.cons_append, List.cons_append, List.append_assoc]
  · obtain ⟨rfl, rfl⟩ := Prod.mk.inj (Except.ok.inj h)
    exact ⟨_, .none, rfl⟩

theorem readCondition_complete {c : Condition} (h : SpellsCondition ts c) (hleft : left.Closes) :
    readCondition (ts ++ left) = .ok (c, left) := by
  cases h with
  | none => rw [List.nil_append, readCondition, if_neg (hleft.not_at? (by decide) (by decide))]
  | when word_kind guard change =>
    rw [List.cons_append, List.cons_append, List.append_assoc, readCondition,
      if_pos (Tokens.at?_of_kind word_kind)]
    exact bind_eq_ok_iff.mpr ⟨_, readGuard_complete guard (change.not_asks hleft),
      readChange_complete change hleft⟩

theorem readDefinition_sound {d : SuffixDefinition} (h : readDefinition ts = .ok (d, left)) :
    ∃ taken, SpellsDefinition taken d ∧ ts = taken ++ left := by
  obtain ⟨⟨⟨suffix, description⟩, ts₁⟩, hgloss, h⟩ := bind_eq_ok_iff.mp h
  obtain ⟨⟨c, ts₂⟩, hcondition, h⟩ := bind_eq_ok_iff.mp h
  obtain ⟨rfl, rfl⟩ := Prod.mk.inj (pure_eq_ok_iff.mp h)
  obtain ⟨taken, head, rfl⟩ := readGloss_ok_iff.mp hgloss
  obtain ⟨more, condition, rfl⟩ := readCondition_sound hcondition
  exact ⟨_, .mk head condition, by rw [List.append_assoc]⟩

theorem readDefinition_complete {d : SuffixDefinition} (h : SpellsDefinition ts d)
    (hleft : left.Closes) : readDefinition (ts ++ left) = .ok (d, left) := by
  cases h with
  | mk head condition =>
    rw [List.append_assoc]
    exact bind_eq_ok_iff.mpr ⟨_, readGloss_ok_iff.mpr ⟨_, head, rfl⟩, bind_eq_ok_iff.mpr
      ⟨_, readCondition_complete condition hleft, rfl⟩⟩

theorem SpellsDefinition.not_at?_rightBrace {d : SuffixDefinition} (h : SpellsDefinition ts d)
    (left : Tokens) : ¬ (ts ++ left).at? .rightBrace := by
  obtain ⟨⟨name_kind, _, _⟩, _⟩ := h
  simp [name_kind]

theorem SpellsDefinitions.cons {more : Tokens} {comma : Token} {d : SuffixDefinition}
    {rest : List SuffixDefinition} (first : SpellsDefinition ts d) (comma_kind : comma.kind = .comma)
    (others : SpellsDefinitions more rest) : SpellsDefinitions (ts ++ comma :: more) (d :: rest) := by
  cases others with
  | nil => exact .trailing (.single first) comma_kind
  | listed all => exact .listed (.cons first comma_kind all)
  | @trailing more last rest all last_kind =>
    have hall : SpellsDefinitions (ts ++ comma :: more ++ [last]) (d :: rest) :=
      .trailing (.cons first comma_kind all) last_kind
    rwa [List.append_assoc] at hall

/-- The definitions of a list are read up to a closing brace, or up to a comma before one. -/
theorem readDefinitions_sound (h : (readDefinitions ts).2 = .ok left) :
    ∃ taken, SpellsDefinitions taken (readDefinitions ts).1 ∧ ts = taken ++ left ∧
      left.at? .rightBrace := by
  fun_induction readDefinitions ts with
  | case1 ts hbrace =>
    obtain rfl := Except.ok.inj h
    exact ⟨_, .nil, rfl, hbrace⟩
  | case2 => cases h
  | case3 ts _ d ts' hd hcomma more ending hr ih =>
    rw [hr] at ih
    obtain ⟨others, hothers, htail, hbrace⟩ := ih h
    obtain ⟨taken, hdefinition, rfl⟩ := readDefinition_sound hd
    obtain ⟨comma, comma_kind, hts'⟩ := Tokens.exists_cons_of_at? hcomma (by decide)
    have hts : taken ++ ts' = taken ++ comma :: (others ++ left) := by rw [hts', htail]
    exact ⟨_, .cons hdefinition comma_kind hothers, by rw [hts, List.append_assoc]; rfl, hbrace⟩
  | case4 ts _ d ts' hd _ hbrace =>
    obtain rfl := Except.ok.inj h
    obtain ⟨taken, hdefinition, rfl⟩ := readDefinition_sound hd
    exact ⟨_, .listed (.single hdefinition), rfl, hbrace⟩
  | case5 => cases h

theorem readDefinitions_eq (ts : Tokens) : readDefinitions ts =
    if ts.at? .rightBrace then ([], .ok ts)
    else match readDefinition ts with
      | .error e => ([], .error e)
      | .ok (d, ts) =>
        if ts.at? .comma then (d :: (readDefinitions ts.tail).1, (readDefinitions ts.tail).2)
        else if ts.at? .rightBrace then ([d], .ok ts)
        else ([d], refuse .definitionEnd ts) := by
  rw [readDefinitions]
  cases readDefinition ts <;> rfl

/-- A comma after the last definition makes no difference. -/
theorem readDefinitions_listed {ds : List SuffixDefinition} (h : Listed SpellsDefinition ts ds)
    (hleft : left.at? .rightBrace ∨ left.at? .comma ∧ Tokens.at? left.tail .rightBrace) :
    readDefinitions (ts ++ left) =
      (ds, .ok (if left.at? .comma then left.tail else left)) := by
  induction h with
  | single first =>
    have hcloses : left.Closes := hleft.symm.imp_left And.left
    rw [readDefinitions_eq, if_neg (first.not_at?_rightBrace left),
      readDefinition_complete first hcloses]
    dsimp only
    obtain hbrace | ⟨hcomma, hbrace⟩ := hleft
    · have hcomma : ¬ left.at? .comma := Tokens.not_at?_of_at? hbrace (by decide)
      rw [if_neg hcomma, if_pos hbrace, if_neg hcomma]
    · rw [if_pos hcomma, if_pos hcomma, readDefinitions_eq, if_pos hbrace]
  | @cons ts more comma d rest first comma_kind others ih =>
    have hcomma : Tokens.at? (comma :: more ++ left) .comma := Tokens.at?_of_kind comma_kind
    rw [List.append_assoc, readDefinitions_eq, if_neg (first.not_at?_rightBrace _),
      readDefinition_complete first (.inl hcomma)]
    dsimp only
    rw [if_pos hcomma, List.cons_append, List.tail_cons, ih]

theorem readDefinitions_complete {ds : List SuffixDefinition} (h : SpellsDefinitions ts ds)
    (hleft : left.at? .rightBrace) : readDefinitions (ts ++ left) = (ds, .ok left) := by
  have hcomma : ¬ left.at? .comma := Tokens.not_at?_of_at? hleft (by decide)
  cases h with
  | nil => rw [List.nil_append, readDefinitions_eq, if_pos hleft]
  | listed all => rw [readDefinitions_listed all (.inl hleft), if_neg hcomma]
  | @trailing ts comma _ all comma_kind =>
    have hmark : Tokens.at? ([comma] ++ left) .comma := Tokens.at?_of_kind comma_kind
    rw [List.append_assoc, readDefinitions_listed all (.inr ⟨hmark, hleft⟩), if_pos hmark]
    rfl

end Morphotactics
