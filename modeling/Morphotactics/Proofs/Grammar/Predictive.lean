import Morphotactics.Proofs.Grammar.Prediction
import Morphotactics.Proofs.Text.Numeral

/-! The readers of grammars look one token ahead: each predicts the language of what it reads. -/
namespace Morphotactics

section Definitions

theorem readGloss_predicts (ts : Tokens) : Predicts (Spelled SpellsGloss) readGloss ts := by
  have h := (Predicts.expect .identifier (by decide) ts).bind
    (mul_nonempty (ofKind_nonempty .colon) (ofKind_nonempty .string)) fun key ts _ =>
      (Predicts.expect .colon (by decide) ts).bind (ofKind_nonempty .string) fun _ ts _ =>
        (Predicts.expect .string (by decide) ts).map fun gloss => (key, gloss)
  refine (h.of_eq fun _ => rfl).mono ?_
  rintro _ ⟨_, ⟨name, name_kind, rfl⟩, _, ⟨_, ⟨colon, colon_kind, rfl⟩, _, ⟨text, text_kind, rfl⟩,
    rfl⟩, rfl⟩
  exact ⟨_, .mk name_kind colon_kind text_kind⟩

/-- The operands of conditions of a kind. -/
def operandOf (kind : ConditionKind) : Language Token :=
  {ts | ∃ t c, SpellsOperand kind t c ∧ ts = [t]}

theorem operandOf_nonempty (kind : ConditionKind) : ∃ t, t ∈ operandOf kind :=
  ⟨[⟨.pattern, [], .start⟩], _, _, .pattern rfl, rfl⟩

theorem readOperand_predicts (kind : ConditionKind) (ts : Tokens) :
    Predicts (operandOf kind) (readOperand kind) ts := by
  have hset : Predicts (operandOf kind) _ ts :=
    ((Predicts.expect .literalSet (by decide) ts).map fun characters =>
      ({ kind, characters } : Condition)).mono <| by
        rintro _ ⟨t, set_kind, rfl⟩
        exact ⟨t, _, .characters set_kind, rfl⟩
  have hpattern : Predicts (operandOf kind) _ ts :=
    ((Predicts.expect .pattern (by decide) ts).map fun pattern =>
      ({ kind, pattern } : Condition)).mono <| by
        rintro _ ⟨t, pattern_kind, rfl⟩
        exact ⟨t, _, .pattern pattern_kind, rfl⟩
  have h := Predicts.ite .literalSet (fun _ => hset) fun _ =>
    Predicts.ite .pattern (fun _ => hpattern) fun _ =>
      Predicts.refuse (operandOf_nonempty kind) .operand ts
  exact h.of_eq fun _ => rfl

theorem readGuard_eq (ts : Tokens) : readGuard ts =
    if ts.at? .endsWith then readOperand .endsWith ts.tail
    else if ts.at? .startsWith then readOperand .startsWith ts.tail
    else if ts.at? .isVowel then .ok ({ kind := .isVowel }, ts.tail)
    else if ts.at? .isConsonant then .ok ({ kind := .isConsonant }, ts.tail)
    else .ok ({}, ts) := by
  unfold readGuard Tokens.at?
  cases ts.current.kind <;> rfl

theorem nil_mem_guard : [] ∈ Spelled SpellsGuard :=
  ⟨_, .always⟩

theorem readGuard_predicts (ts : Tokens) : Predicts (Spelled SpellsGuard) readGuard ts := by
  have hends : ts.at? .endsWith →
      Predicts (Spelled SpellsGuard) (fun ts => readOperand .endsWith ts.tail) ts := by
    intro hkind
    refine (Predicts.token hkind (by decide) (readOperand_predicts _ _)).mono ?_
    rintro _ ⟨_, ⟨word, word_kind, rfl⟩, _, ⟨t, c, asked, rfl⟩, rfl⟩
    exact ⟨c, .endsWith word_kind asked⟩
  have hstarts : ts.at? .startsWith →
      Predicts (Spelled SpellsGuard) (fun ts => readOperand .startsWith ts.tail) ts := by
    intro hkind
    refine (Predicts.token hkind (by decide) (readOperand_predicts _ _)).mono ?_
    rintro _ ⟨_, ⟨word, word_kind, rfl⟩, _, ⟨t, c, asked, rfl⟩, rfl⟩
    exact ⟨c, .startsWith word_kind asked⟩
  have hvowel : ts.at? .isVowel → Predicts (Spelled SpellsGuard)
      (fun ts => .ok (({ kind := .isVowel } : Condition), ts.tail)) ts := by
    intro hkind
    refine (Predicts.token hkind (by decide) (.pure nil_mem_one _ _)).mono ?_
    rintro _ ⟨_, ⟨word, word_kind, rfl⟩, _, rfl, rfl⟩
    exact ⟨_, .isVowel word_kind⟩
  have hconsonant : ts.at? .isConsonant → Predicts (Spelled SpellsGuard)
      (fun ts => .ok (({ kind := .isConsonant } : Condition), ts.tail)) ts := by
    intro hkind
    refine (Predicts.token hkind (by decide) (.pure nil_mem_one _ _)).mono ?_
    rintro _ ⟨_, ⟨word, word_kind, rfl⟩, _, rfl, rfl⟩
    exact ⟨_, .isConsonant word_kind⟩
  have hnone : Predicts (Spelled SpellsGuard) (fun ts => .ok (({} : Condition), ts)) ts :=
    .pure nil_mem_guard _ ts
  have h := Predicts.ite .endsWith hends fun _ => Predicts.ite .startsWith hstarts fun _ =>
    Predicts.ite .isVowel hvowel fun _ => Predicts.ite .isConsonant hconsonant fun _ => hnone
  exact h.of_eq readGuard_eq

/-- The numbers that can be read. A continuation has to have one of these behind a cut, while an
error at any other number is not a syntax error. -/
def readableNumber : Language Token :=
  {ts | ∃ t n, t.kind = .number ∧ readInteger t.text = .ok n ∧ ts = [t]}

/-- What may change a condition, whatever this asks. -/
def anyChange : Language Token :=
  {ts | ∀ asked, ∃ c, SpellsChange asked ts c}

theorem nil_mem_anyChange : [] ∈ anyChange :=
  fun _ => ⟨_, .none⟩

theorem readableNumber_nonempty : ∃ t, t ∈ readableNumber :=
  ⟨[⟨.number, Text.ofNat 0, .start⟩], _, 0, rfl, readInteger_ofNat (Nat.pow_pos (by decide)), rfl⟩

/-- The number of a cut, which may have too many digits. -/
def readCut (c : Condition) (ts : Tokens) : Except ParseError (Parsed Condition) := do
  let (spelled, ts) ← expect .number ts
  match readInteger spelled with
  | .ok cut => return ({ c with cut }, ts)
  | .error fault => .error (.numeral fault)

theorem readCut_cons {t : Token} {n : Int} (number_kind : t.kind = .number)
    (value : readInteger t.text = .ok n) (c : Condition) (ts : Tokens) :
    readCut c (t :: ts) = .ok ({ c with cut := n }, ts) := by
  refine bind_eq_ok_iff.mpr ⟨_, expect_cons number_kind, ?_⟩
  dsimp only
  rw [value]
  rfl

theorem readCut_predicts (c : Condition) (ts : Tokens) :
    Predicts readableNumber (readCut c) ts := by
  by_cases hkind : ts.at? .number
  · obtain ⟨t, number_kind, hts⟩ := Tokens.exists_cons_of_at? hkind (by decide)
    cases value : readInteger t.text with
    | ok n =>
      have hread := readCut_cons number_kind value c ts.tail
      rw [← hts] at hread
      refine ⟨fun a left hok => ?_, fun _ _ _ herror => by cases hread.symm.trans herror⟩
      obtain ⟨rfl, rfl⟩ := Prod.mk.inj (Except.ok.inj (hread.symm.trans hok))
      exact ⟨[t], ⟨t, n, number_kind, value, rfl⟩, hts,
        fun us _ => readCut_cons number_kind value c us⟩
    | error fault =>
      have hread : readCut c ts = .error (.numeral fault) := by
        rw [hts]
        refine bind_eq_error_iff.mpr (.inr ⟨_, expect_cons number_kind, ?_⟩)
        dsimp only
        rw [value]
      exact ⟨fun _ _ hok => (by cases hread.symm.trans hok),
        fun _ _ _ herror => (by cases hread.symm.trans herror)⟩
  · refine (Predicts.refuse readableNumber_nonempty (.kind .number) ts).of_current fun us hus => ?_
    have hexpect : expect .number us = refuse (.kind .number) us :=
      expect_of_not_at? (by rwa [Tokens.at?, hus])
    exact bind_eq_error_iff.mpr (.inl hexpect)

theorem readChange_predicts (asked : Condition) (ts : Tokens) :
    Predicts anyChange (readChange asked) ts := by
  have hcut : ts.at? .cut → Predicts anyChange (fun ts => readCut asked ts.tail) ts := by
    intro hkind
    refine (Predicts.token hkind (by decide) (readCut_predicts _ _)).mono ?_
    rintro _ ⟨_, ⟨word, word_kind, rfl⟩, _, ⟨t, n, number_kind, value, rfl⟩, rfl⟩
    exact fun asked => ⟨_, .cut word_kind number_kind value⟩
  have hreplace : ts.at? .replace → Predicts anyChange (fun ts =>
      expect .string ts.tail >>= fun r => .ok ({ asked with replacement := r.1 }, r.2)) ts := by
    intro hkind
    have hstring := (Predicts.expect .string (by decide) ts.tail).map fun replacement =>
      ({ asked with replacement } : Condition)
    refine (Predicts.token hkind (by decide) hstring).mono ?_
    rintro _ ⟨_, ⟨word, word_kind, rfl⟩, _, ⟨t, text_kind, rfl⟩, rfl⟩
    exact fun asked => ⟨_, .replace word_kind text_kind⟩
  have hnone : Predicts anyChange (fun ts => .ok (asked, ts)) ts :=
    .pure nil_mem_anyChange _ ts
  have h := Predicts.ite .cut hcut fun _ => Predicts.ite .replace hreplace fun _ => hnone
  exact h.of_eq fun _ => rfl

theorem nil_mem_condition : [] ∈ Spelled SpellsCondition :=
  ⟨_, .none⟩

theorem readCondition_predicts (ts : Tokens) :
    Predicts (Spelled SpellsCondition) readCondition ts := by
  have hwhen : ts.at? .when → Predicts (Spelled SpellsCondition)
      (fun ts => readGuard ts.tail >>= fun r => readChange r.1 r.2) ts := by
    intro hkind
    have hasked := (readGuard_predicts ts.tail).bind ⟨[], nil_mem_anyChange⟩ fun asked ts _ =>
      readChange_predicts asked ts
    refine (Predicts.token hkind (by decide) hasked).mono ?_
    rintro _ ⟨_, ⟨word, word_kind, rfl⟩, _, ⟨t, ⟨asked, guard⟩, more, hmore, rfl⟩, rfl⟩
    obtain ⟨c, changed⟩ := hmore asked
    have hspelled : SpellsCondition (word :: t ++ more) c := .when word_kind guard changed
    exact ⟨c, hspelled⟩
  have h := Predicts.ite .when hwhen fun _ => .pure nil_mem_condition ({} : Condition) ts
  exact h.of_eq fun _ => rfl

theorem readDefinition_predicts (ts : Tokens) :
    Predicts (Spelled SpellsDefinition) readDefinition ts := by
  have h := (readGloss_predicts ts).bind ⟨[], nil_mem_condition⟩ fun gloss ts _ =>
    (readCondition_predicts ts).map fun c => (⟨gloss.1, gloss.2, c⟩ : SuffixDefinition)
  refine (h.of_eq fun _ => rfl).mono ?_
  rintro _ ⟨t, ⟨⟨suffix, description⟩, head⟩, more, ⟨c, condition⟩, rfl⟩
  exact ⟨_, .mk head condition⟩

/-- The definitions of a set as a reader of its own. -/
def readBody (ts : Tokens) : Except ParseError (Parsed (List SuffixDefinition)) := do
  let left ← (readDefinitions ts).2
  return ((readDefinitions ts).1, left)

theorem readBody_eq (ts : Tokens) : readBody ts =
    if ts.at? .rightBrace then .ok ([], ts)
    else (do
      let (d, ts) ← readDefinition ts
      if ts.at? .comma then
        let (more, left) ← readBody ts.tail
        return (d :: more, left)
      else if ts.at? .rightBrace then return ([d], ts)
      else refuse .definitionEnd ts) := by
  rw [readBody, readDefinitions_eq]
  split_ifs
  · rfl
  · cases readDefinition ts with
    | error e => rfl
    | ok r =>
      obtain ⟨d, ts'⟩ := r
      dsimp only [bind, Except.bind]
      split_ifs
      · rw [readBody]
        cases (readDefinitions ts'.tail).2 <;> rfl
      · rfl
      · rfl

theorem nil_mem_definitions : [] ∈ Spelled SpellsDefinitions :=
  ⟨_, .nil⟩

-- Lists are read by recursion on the tokens that are left, so the proofs below recur as they do.
theorem readBody_predicts (ts : Tokens) : Predicts (Spelled SpellsDefinitions) readBody ts := by
  have hmore := (readDefinition_predicts ts).bind ⟨[], nil_mem_moreOf (Spelled SpellsDefinitions)⟩
    fun d ts h => Predicts.ite .comma
      (fun hcomma => .comma hcomma ((readBody_predicts ts.tail).map (d :: ·))) fun _ =>
        Predicts.ite .rightBrace (fun _ => .pure (nil_mem_moreOf _) [d] ts) fun _ =>
          .refuse ⟨[], nil_mem_moreOf _⟩ .definitionEnd ts
  have hsub : ∀ t ∈ Spelled SpellsDefinition * moreOf (Spelled SpellsDefinitions),
      t ∈ Spelled SpellsDefinitions := by
    refine forall_mem_mul_moreOf ?_ ?_
    · rintro _ ⟨_, first⟩
      exact ⟨_, .listed (.single first)⟩
    · rintro _ ⟨_, first⟩ _ comma_kind _ ⟨_, others⟩
      exact ⟨_, .cons first comma_kind others⟩
  have h := Predicts.ite .rightBrace (fun _ => .pure nil_mem_definitions [] ts) fun _ =>
    hmore.mono hsub
  exact h.of_eq readBody_eq
termination_by ts.length
decreasing_by
  have hlength := readDefinition_length h
  rw [List.length_tail]
  omega

end Definitions

section Alternatives

theorem readGlosses_predicts (ts : Tokens) :
    Predicts (Spelled (Listed SpellsGloss)) readGlosses ts := by
  have h := (readGloss_predicts ts).bind ⟨[], nil_mem_moreOf (Spelled (Listed SpellsGloss))⟩
    fun gloss ts h => Predicts.ite .comma
      (fun hcomma => .comma hcomma ((readGlosses_predicts ts.tail).map (gloss :: ·))) fun _ =>
        .pure (nil_mem_moreOf _) [gloss] ts
  refine (h.of_eq readGlosses_eq).mono (forall_mem_mul_moreOf ?_ ?_)
  · rintro _ ⟨_, first⟩
    exact ⟨_, .single first⟩
  · rintro _ ⟨_, first⟩ _ comma_kind _ ⟨_, others⟩
    exact ⟨_, .cons first comma_kind others⟩
termination_by ts.length
decreasing_by
  have hlength := readGloss_length h
  rw [List.length_tail]
  omega

theorem element_nonempty : ∃ t, t ∈ Spelled SpellsElement :=
  ⟨[⟨.identifier, [], .start⟩], _, .literal rfl⟩

theorem readElement_eq (ts : Tokens) : readElement ts =
    if ts.at? .leftBrace then (do
      let (glosses, ts) ← readGlosses ts.tail
      let (_, ts) ← expect .rightBrace ts
      return (.glossed (.ofList glosses), ts))
    else if ts.at? .leftBracket then (do
      let (child, ts) ← readElement ts.tail
      let (_, ts) ← expect .rightBracket ts
      return (.optional child, ts))
    else if ts.at? .atSign then (do
      let (name, ts) ← expect .identifier ts.tail
      return (.setRef name, ts))
    else if ts.at? .identifier then (do
      let (word, ts) ← expect .identifier ts
      return (.literal word, ts))
    else refuse .element ts := by
  cases ts with
  | nil => rfl
  | cons t ts =>
    obtain ⟨kind, text, position⟩ := t
    cases kind <;> rfl

theorem readElement_predicts (ts : Tokens) : Predicts (Spelled SpellsElement) readElement ts := by
  have hglossed : ts.at? .leftBrace → Predicts (Spelled SpellsElement) (fun ts =>
      readGlosses ts.tail >>= fun r => expect .rightBrace r.2 >>= fun s =>
        .ok (Element.glossed (.ofList r.1), s.2)) ts := by
    intro hkind
    have hinner := (readGlosses_predicts ts.tail).bind (ofKind_nonempty .rightBrace)
      fun glosses ts _ => (Predicts.expect .rightBrace (by decide) ts).map fun _ =>
        Element.glossed (.ofList glosses)
    refine (Predicts.token hkind (by decide) hinner).mono ?_
    rintro _ ⟨_, ⟨opening, opening_kind, rfl⟩, _, ⟨t, ⟨glosses, inner⟩, _, ⟨closing, closing_kind,
      rfl⟩, rfl⟩, rfl⟩
    exact ⟨_, .glossed opening_kind inner (Table.collects_ofList glosses) closing_kind⟩
  have hoptional : ts.at? .leftBracket → Predicts (Spelled SpellsElement) (fun ts =>
      readElement ts.tail >>= fun r => expect .rightBracket r.2 >>= fun s =>
        .ok (Element.optional r.1, s.2)) ts := by
    intro hkind
    have hinner := (readElement_predicts ts.tail).bind (ofKind_nonempty .rightBracket)
      fun child ts _ => (Predicts.expect .rightBracket (by decide) ts).map fun _ =>
        Element.optional child
    refine (Predicts.token hkind (by decide) hinner).mono ?_
    rintro _ ⟨_, ⟨opening, opening_kind, rfl⟩, _, ⟨t, ⟨child, inner⟩, _, ⟨closing, closing_kind,
      rfl⟩, rfl⟩, rfl⟩
    exact ⟨_, .optional opening_kind inner closing_kind⟩
  have hset : ts.at? .atSign → Predicts (Spelled SpellsElement) (fun ts =>
      expect .identifier ts.tail >>= fun r => .ok (Element.setRef r.1, r.2)) ts := by
    intro hkind
    have hname := (Predicts.expect .identifier (by decide) ts.tail).map Element.setRef
    refine (Predicts.token hkind (by decide) hname).mono ?_
    rintro _ ⟨_, ⟨mark, mark_kind, rfl⟩, _, ⟨name, name_kind, rfl⟩, rfl⟩
    exact ⟨_, .setRef mark_kind name_kind⟩
  have hliteral : Predicts (Spelled SpellsElement) (fun ts =>
      expect .identifier ts >>= fun r => .ok (Element.literal r.1, r.2)) ts := by
    refine ((Predicts.expect .identifier (by decide) ts).map Element.literal).mono ?_
    rintro _ ⟨word, word_kind, rfl⟩
    exact ⟨_, .literal word_kind⟩
  have h := Predicts.ite .leftBrace hglossed fun _ => Predicts.ite .leftBracket hoptional fun _ =>
    Predicts.ite .atSign hset fun _ => Predicts.ite .identifier (fun _ => hliteral) fun _ =>
      Predicts.refuse element_nonempty .element ts
  exact h.of_eq readElement_eq
termination_by ts.length
decreasing_by
  have hne := List.length_pos_iff.mpr (Tokens.ne_nil_of_at? hkind (by decide))
  rw [List.length_tail]
  omega

/-- What may stand behind an element: a plus or none, and the rest of the alternative. -/
theorem skipPlus_predicts {α : Type} {L : Language Token} {read : Reader α} {ts : Tokens}
    (h : Predicts L read (skipPlus ts)) :
    Predicts (ofKind .plus * L + L) (fun ts => read (skipPlus ts)) ts := by
  by_cases hplus : ts.at? .plus
  · rw [skipPlus, if_pos hplus] at h
    refine ((Predicts.token hplus (by decide) h).mono fun _ => .inl).of_current fun us hus => ?_
    have hus : us.at? .plus := by rwa [Tokens.at?, hus]
    rw [skipPlus, if_pos hus]
  · rw [skipPlus, if_neg hplus] at h
    refine (h.mono fun _ => .inr).of_current fun us hus => ?_
    have hus : ¬ us.at? .plus := by rwa [Tokens.at?, hus]
    rw [skipPlus, if_neg hus]

theorem nil_mem_alternative : [] ∈ Spelled SpellsAlternative :=
  ⟨_, .nil⟩

theorem readAlternative_predicts (ts : Tokens) :
    Predicts (Spelled SpellsAlternative) readAlternative ts := by
  by_cases hcloses : ts.at? .comma || ts.at? .rightBrace
  · refine (Predicts.pure nil_mem_alternative [] ts).of_current fun us hus => ?_
    rw [readAlternative_eq, Tokens.at?, Tokens.at?, hus]
    exact if_pos hcloses
  · have hmore : ∃ t, t ∈ ofKind .plus * Spelled SpellsAlternative + Spelled SpellsAlternative :=
      ⟨[], .inr nil_mem_alternative⟩
    have h := (readElement_predicts ts).bind hmore fun e ts h =>
      (skipPlus_predicts (readAlternative_predicts (skipPlus ts))).map (e :: ·)
    refine (h.mono ?_).of_current fun us hus => ?_
    · rintro _ ⟨t, ⟨e, first⟩, _, ⟨_, ⟨plus, plus_kind, rfl⟩, more, ⟨rest, others⟩, rfl⟩ |
        ⟨rest, others⟩, rfl⟩
      · exact ⟨_, .plus first plus_kind others⟩
      · exact ⟨_, .cons first others⟩
    · rw [readAlternative_eq, Tokens.at?, Tokens.at?, hus]
      exact if_neg hcloses
termination_by ts.length
decreasing_by
  have hlength := readElement_length h
  have hskip := skipPlus_length ts
  omega

theorem nil_mem_alternatives : [] ∈ Spelled (Listed SpellsAlternative) :=
  ⟨_, .single .nil⟩

theorem readAlternatives_predicts (ts : Tokens) :
    Predicts (Spelled (Listed SpellsAlternative)) readAlternatives ts := by
  have h := (readAlternative_predicts ts).bind
    ⟨[], nil_mem_moreOf (Spelled (Listed SpellsAlternative))⟩ fun a ts h => Predicts.ite .comma
      (fun hcomma => .comma hcomma (Predicts.ite .rightBrace
        (fun _ => .pure nil_mem_alternatives [a] ts.tail) fun _ =>
          (readAlternatives_predicts ts.tail).map (a :: ·))) fun _ =>
        .pure (nil_mem_moreOf _) [a] ts
  refine (h.of_eq readAlternatives_eq).mono (forall_mem_mul_moreOf ?_ ?_)
  · rintro _ ⟨_, first⟩
    exact ⟨_, .single first⟩
  · rintro _ ⟨_, first⟩ _ comma_kind _ ⟨_, others⟩
    exact ⟨_, .cons first comma_kind others⟩
termination_by ts.length
decreasing_by
  have hlength := readAlternative_length h
  have hne := List.length_pos_iff.mpr (Tokens.ne_nil_of_at? hcomma (by decide))
  rw [List.length_tail]
  omega

end Alternatives

section Declarations

theorem nil_mem_description : [] ∈ Spelled SpellsDescription :=
  ⟨_, .none⟩

theorem readDescription_predicts (ts : Tokens) :
    Predicts (Spelled SpellsDescription) readDescription ts := by
  have hsome : Predicts (Spelled SpellsDescription)
      (fun ts => expect .colon ts >>= fun r => expect .string r.2) ts := by
    refine ((Predicts.expect .colon (by decide) ts).bind (ofKind_nonempty .string) fun _ ts _ =>
      Predicts.expect .string (by decide) ts).mono ?_
    rintro _ ⟨_, ⟨colon, colon_kind, rfl⟩, _, ⟨text, text_kind, rfl⟩, rfl⟩
    exact ⟨_, .some colon_kind text_kind⟩
  have h := Predicts.ite .colon (fun _ => hsome) fun _ => .pure nil_mem_description [] ts
  exact h.of_eq fun _ => rfl

theorem readHeader_predicts {keyword : TokenKind} (hkeyword : keyword ≠ .eof) (ts : Tokens) :
    Predicts (Spelled (SpellsHeader keyword)) (readHeader keyword) ts := by
  have hopening := mul_nonempty ⟨[], nil_mem_description⟩ (ofKind_nonempty .leftBrace)
  have h := (Predicts.expect keyword hkeyword ts).bind
    (mul_nonempty (ofKind_nonempty .identifier) hopening) fun _ ts _ =>
      (Predicts.expect .identifier (by decide) ts).bind hopening fun name ts _ =>
        (readDescription_predicts ts).bind (ofKind_nonempty .leftBrace) fun description ts _ =>
          (Predicts.expect .leftBrace (by decide) ts).map fun _ => (name, description)
  refine (h.of_eq fun _ => rfl).mono ?_
  rintro _ ⟨_, ⟨word, word_kind, rfl⟩, _, ⟨_, ⟨name, name_kind, rfl⟩, _, ⟨t, ⟨description,
    described⟩, _, ⟨opening, opening_kind, rfl⟩, rfl⟩, rfl⟩, rfl⟩
  have hspelled : SpellsHeader keyword (word :: name :: t ++ [opening]) (name.text, description) :=
    .mk word_kind name_kind described opening_kind
  exact ⟨_, hspelled⟩

theorem header_nonempty (keyword : TokenKind) : ∃ t, t ∈ Spelled (SpellsHeader keyword) := by
  have hspelled : SpellsHeader keyword (⟨keyword, [], .start⟩ :: ⟨.identifier, [], .start⟩ :: [] ++
      [⟨.leftBrace, [], .start⟩]) ([], []) :=
    .mk rfl rfl .none rfl
  exact ⟨_, _, hspelled⟩

theorem readDeclaration_eq (ts : Tokens) : readDeclaration ts =
    if ts.at? .suffix then (do
      let (header, ts) ← readHeader .suffix ts
      let (definitions, ts) ← readBody ts
      let (_, ts) ← expect .rightBrace ts
      return (.set header.1 header.2 definitions, ts))
    else if ts.at? .rule then (do
      let (header, ts) ← readHeader .rule ts
      let (alternatives, ts) ← readAlternatives ts
      let (_, ts) ← expect .rightBrace ts
      return (.rule header.1 header.2 alternatives, ts))
    else refuse .declaration ts := by
  unfold readDeclaration
  split_ifs
  · cases readHeader .suffix ts with
    | error e => rfl
    | ok r =>
      obtain ⟨header, left⟩ := r
      dsimp only [bind, Except.bind]
      rw [readBody]
      cases (readDefinitions left).2 <;> rfl
  · rfl
  · rfl

theorem declaration_nonempty : ∃ t, t ∈ Spelled SpellsDeclaration := by
  obtain ⟨head, ⟨name, description⟩, header⟩ := header_nonempty .suffix
  have hspelled : SpellsDeclaration (head ++ [] ++ [⟨.rightBrace, [], .start⟩])
      (.set name description []) :=
    .set header .nil rfl
  exact ⟨_, _, hspelled⟩

theorem readDeclaration_predicts (ts : Tokens) :
    Predicts (Spelled SpellsDeclaration) readDeclaration ts := by
  have hset : Predicts (Spelled SpellsDeclaration) (fun ts =>
      readHeader .suffix ts >>= fun r => readBody r.2 >>= fun s =>
        expect .rightBrace s.2 >>= fun t => .ok (Declaration.set r.1.1 r.1.2 s.1, t.2)) ts := by
    refine ((readHeader_predicts (by decide) ts).bind
      (mul_nonempty ⟨[], nil_mem_definitions⟩ (ofKind_nonempty .rightBrace)) fun header ts _ =>
        (readBody_predicts ts).bind (ofKind_nonempty .rightBrace) fun definitions ts _ =>
          (Predicts.expect .rightBrace (by decide) ts).map fun _ =>
            Declaration.set header.1 header.2 definitions).mono ?_
    rintro _ ⟨head, ⟨⟨name, description⟩, header⟩, _, ⟨t, ⟨definitions, body⟩, _, ⟨closing,
      closing_kind, rfl⟩, rfl⟩, rfl⟩
    have hspelled := SpellsDeclaration.set header body closing_kind
    rw [List.append_assoc] at hspelled
    exact ⟨_, hspelled⟩
  have hrule : Predicts (Spelled SpellsDeclaration) (fun ts =>
      readHeader .rule ts >>= fun r => readAlternatives r.2 >>= fun s =>
        expect .rightBrace s.2 >>= fun t => .ok (Declaration.rule r.1.1 r.1.2 s.1, t.2)) ts := by
    refine ((readHeader_predicts (by decide) ts).bind
      (mul_nonempty ⟨[], nil_mem_alternatives⟩ (ofKind_nonempty .rightBrace)) fun header ts _ =>
        (readAlternatives_predicts ts).bind (ofKind_nonempty .rightBrace) fun alternatives ts _ =>
          (Predicts.expect .rightBrace (by decide) ts).map fun _ =>
            Declaration.rule header.1 header.2 alternatives).mono ?_
    rintro _ ⟨head, ⟨⟨name, description⟩, header⟩, _, ⟨t, ⟨alternatives, body⟩, _, ⟨closing,
      closing_kind, rfl⟩, rfl⟩, rfl⟩
    have hspelled := SpellsDeclaration.rule header body closing_kind
    rw [List.append_assoc] at hspelled
    exact ⟨_, hspelled⟩
  have h := Predicts.ite .suffix (fun _ => hset) fun _ =>
    Predicts.ite .rule (fun _ => hrule) fun _ =>
      Predicts.refuse declaration_nonempty .declaration ts
  exact h.of_eq readDeclaration_eq

end Declarations
end Morphotactics
