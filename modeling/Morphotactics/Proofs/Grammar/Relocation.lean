import Morphotactics.Proofs.Grammar.Declaration
import Morphotactics.Proofs.Token.Seam

/-! Readers look neither at places nor behind the first end token. Where tokens are moved they read
the same, and their errors move along. -/
namespace Morphotactics

def ParseError.moved (move : Position → Position) : ParseError → ParseError
  | .unexpected expected found position => .unexpected expected found (move position)
  | .numeral fault => .numeral fault

/-- The same tokens at other places, up to the first end token and including it. A list without an
end token is left out: the place of its end is fixed, and does not move. -/
inductive Tokens.Moved (move : Position → Position) : Tokens → Tokens → Prop
  | ended {t : Token} {rest rest' : Tokens} (kind : t.kind = .eof) :
      Moved move (t :: rest) (t.moved move :: rest')
  | cons {t : Token} {rest rest' : Tokens} (tail : Moved move rest rest') :
      Moved move (t :: rest) (t.moved move :: rest')

/-- Two outcomes of reading: the second has read the same and is left with the moved tokens, or has
failed with the moved error. -/
inductive Relocates {β : Type} (move : Position → Position) (same : β → β → Prop) :
    Except ParseError β → Except ParseError β → Prop
  | ok {b b' : β} (agree : same b b') : Relocates move same (.ok b) (.ok b')
  | error (e : ParseError) : Relocates move same (.error e) (.error (e.moved move))

/-- The same has been read, and the tokens that are left have been moved. -/
def Parsed.Moved {α : Type} (move : Position → Position) (r r' : Parsed α) : Prop :=
  r'.1 = r.1 ∧ Tokens.Moved move r.2 r'.2

variable {move : Position → Position} {ts ts' : Tokens}

theorem Tokens.Moved.current (h : Tokens.Moved move ts ts') :
    ts'.current = ts.current.moved move := by
  cases h <;> rfl

theorem Tokens.Moved.current_kind (h : Tokens.Moved move ts ts') :
    ts'.current.kind = ts.current.kind := by
  rw [h.current]
  rfl

theorem Tokens.Moved.at? (h : Tokens.Moved move ts ts') (kind : TokenKind) :
    ts'.at? kind = ts.at? kind := by
  rw [Tokens.at?, Tokens.at?, h.current_kind]

theorem Tokens.Moved.tail (h : Tokens.Moved move ts ts') (hkind : ts.current.kind ≠ .eof) :
    Tokens.Moved move ts.tail ts'.tail := by
  cases h with
  | ended kind => exact absurd kind hkind
  | cons tail => exact tail

theorem Tokens.Moved.tail_of_at? (h : Tokens.Moved move ts ts') {kind : TokenKind}
    (hat : ts.at? kind) (hkind : kind ≠ .eof) : Tokens.Moved move ts.tail ts'.tail := by
  have hcurrent : ts.current.kind = kind := of_decide_eq_true hat
  exact h.tail (hcurrent ▸ hkind)

theorem Tokens.moved_map (move : Position → Position) {last : Token} (hlast : last ∈ ts)
    (hkind : last.kind = .eof) : Tokens.Moved move ts (ts.map (Token.moved move)) := by
  induction ts with
  | nil => cases hlast
  | cons t rest ih =>
    cases hlast with
    | head => exact .ended hkind
    | tail _ hrest => exact .cons (ih hrest)

section Outcomes

variable {α β γ : Type}

theorem Relocates.cases {first first' : Except ParseError (Parsed α)}
    (h : Relocates move (Parsed.Moved move) first first') :
    (∃ e, first = .error e ∧ first' = .error (e.moved move)) ∨
      ∃ a left left', first = .ok (a, left) ∧ first' = .ok (a, left') ∧
        Tokens.Moved move left left' := by
  cases h with
  | error e => exact .inl ⟨e, rfl, rfl⟩
  | @ok r r' agree =>
    obtain ⟨a, left⟩ := r
    obtain ⟨a', left'⟩ := r'
    obtain ⟨rfl, hleft⟩ := agree
    exact .inr ⟨_, left, left', rfl, rfl, hleft⟩

theorem Relocates.bind {same : β → β → Prop} {same' : γ → γ → Prop}
    {first first' : Except ParseError β} {second second' : β → Except ParseError γ}
    (h : Relocates move same first first')
    (hnext : ∀ b b', first = .ok b → same b b' → Relocates move same' (second b) (second' b')) :
    Relocates move same' (first >>= second) (first' >>= second') := by
  cases h with
  | ok agree => exact hnext _ _ rfl agree
  | error e => exact .error e

theorem Relocates.bind_read {same' : γ → γ → Prop} {first first' : Except ParseError (Parsed α)}
    {second second' : Parsed α → Except ParseError γ}
    (h : Relocates move (Parsed.Moved move) first first')
    (hnext : ∀ a left left', first = .ok (a, left) → Tokens.Moved move left left' →
      Relocates move same' (second (a, left)) (second' (a, left'))) :
    Relocates move same' (first >>= second) (first' >>= second') := by
  obtain ⟨e, rfl, rfl⟩ | ⟨a, left, left', rfl, rfl, hleft⟩ := h.cases
  · exact .error e
  · exact hnext a left left' rfl hleft

theorem Relocates.read {a : α} (h : Tokens.Moved move ts ts') :
    Relocates move (Parsed.Moved move) (.ok (a, ts)) (.ok (a, ts')) :=
  .ok ⟨rfl, h⟩

theorem refuse_moved {same : β → β → Prop} (h : Tokens.Moved move ts ts') (expected : Expected) :
    Relocates move same (refuse expected ts) (refuse expected ts') := by
  rw [refuse, refuse, h.current]
  exact .error _

end Outcomes

section Parts

theorem expect_moved (h : Tokens.Moved move ts ts') {kind : TokenKind} (hkind : kind ≠ .eof) :
    Relocates move (Parsed.Moved move) (expect kind ts) (expect kind ts') := by
  cases h with
  | @ended t rest rest' end_kind =>
    have hne : t.kind ≠ kind := fun hsame => hkind (hsame.symm.trans end_kind)
    have hne' : (t.moved move).kind ≠ kind := hne
    rw [expect, expect, if_neg hne, if_neg hne']
    exact refuse_moved (.ended end_kind) _
  | @cons t rest rest' tail =>
    by_cases hsame : t.kind = kind
    · rw [expect_cons hsame, expect_cons (t := t.moved move) hsame]
      exact .read tail
    · have hne' : (t.moved move).kind ≠ kind := hsame
      rw [expect, expect, if_neg hsame, if_neg hne']
      exact refuse_moved (.cons tail) _

theorem readGloss_moved (h : Tokens.Moved move ts ts') :
    Relocates move (Parsed.Moved move) (readGloss ts) (readGloss ts') := by
  refine (expect_moved h (by decide)).bind_read fun key _ _ _ h => ?_
  refine (expect_moved h (by decide)).bind_read fun mark _ _ _ h => ?_
  refine (expect_moved h (by decide)).bind_read fun gloss _ _ _ h => ?_
  exact .read h

theorem readOperand_moved (h : Tokens.Moved move ts ts') (kind : ConditionKind) :
    Relocates move (Parsed.Moved move) (readOperand kind ts) (readOperand kind ts') := by
  rw [readOperand, readOperand, h.at?, h.at?]
  split_ifs
  · refine (expect_moved h (by decide)).bind_read fun characters _ _ _ h => ?_
    exact .read h
  · refine (expect_moved h (by decide)).bind_read fun pattern _ _ _ h => ?_
    exact .read h
  · exact refuse_moved h _

theorem readGuard_moved (h : Tokens.Moved move ts ts') :
    Relocates move (Parsed.Moved move) (readGuard ts) (readGuard ts') := by
  rw [readGuard, readGuard, h.current_kind]
  split
  · rename_i hkind
    exact readOperand_moved (h.tail (by simp [hkind])) _
  · rename_i hkind
    exact readOperand_moved (h.tail (by simp [hkind])) _
  · rename_i hkind
    exact .read (h.tail (by simp [hkind]))
  · rename_i hkind
    exact .read (h.tail (by simp [hkind]))
  · exact .read h

theorem readChange_moved (h : Tokens.Moved move ts ts') (asked : Condition) :
    Relocates move (Parsed.Moved move) (readChange asked ts) (readChange asked ts') := by
  rw [readChange, readChange, h.at?, h.at?]
  split_ifs with hcut hreplace
  · have htail := h.tail_of_at? hcut (by decide)
    refine (expect_moved htail (by decide)).bind_read fun spelled _ _ _ h => ?_
    dsimp only
    cases readInteger spelled with
    | ok cut => exact .read h
    | error fault => exact .error (.numeral fault)
  · have htail := h.tail_of_at? hreplace (by decide)
    refine (expect_moved htail (by decide)).bind_read fun replacement _ _ _ h => ?_
    exact .read h
  · exact .read h

theorem readCondition_moved (h : Tokens.Moved move ts ts') :
    Relocates move (Parsed.Moved move) (readCondition ts) (readCondition ts') := by
  rw [readCondition, readCondition, h.at?]
  split_ifs with hwhen
  · have htail := h.tail_of_at? hwhen (by decide)
    refine (readGuard_moved htail).bind_read fun asked _ _ _ h => ?_
    exact readChange_moved h asked
  · exact .read h

theorem readDefinition_moved (h : Tokens.Moved move ts ts') :
    Relocates move (Parsed.Moved move) (readDefinition ts) (readDefinition ts') := by
  refine (readGloss_moved h).bind_read fun gloss _ _ _ h => ?_
  refine (readCondition_moved h).bind_read fun condition _ _ _ h => ?_
  exact .read h

theorem readDescription_moved (h : Tokens.Moved move ts ts') :
    Relocates move (Parsed.Moved move) (readDescription ts) (readDescription ts') := by
  rw [readDescription, readDescription, h.at?]
  split_ifs
  · refine (expect_moved h (by decide)).bind_read fun mark _ _ _ h => ?_
    exact expect_moved h (by decide)
  · exact .read h

theorem readHeader_moved (h : Tokens.Moved move ts ts') {keyword : TokenKind}
    (hkeyword : keyword ≠ .eof) :
    Relocates move (Parsed.Moved move) (readHeader keyword ts) (readHeader keyword ts') := by
  refine (expect_moved h hkeyword).bind_read fun word _ _ _ h => ?_
  refine (expect_moved h (by decide)).bind_read fun name _ _ _ h => ?_
  refine (readDescription_moved h).bind_read fun description _ _ _ h => ?_
  refine (expect_moved h (by decide)).bind_read fun mark _ _ _ h => ?_
  exact .read h

end Parts

section Lists

theorem readGlosses_moved (h : Tokens.Moved move ts ts') :
    Relocates move (Parsed.Moved move) (readGlosses ts) (readGlosses ts') := by
  -- One step takes several tokens, so that the induction is on how many there are.
  induction hn : ts.length using Nat.strongRecOn generalizing ts ts' with
  | ind n ih =>
    rw [readGlosses_eq ts, readGlosses_eq ts']
    refine (readGloss_moved h).bind_read fun gloss left left' hread hleft => ?_
    have hlength := readGloss_length hread
    dsimp only
    rw [hleft.at?]
    split_ifs with hcomma
    · have htail := hleft.tail_of_at? hcomma (by decide)
      have hshort : left.tail.length < n := by
        rw [List.length_tail]
        omega
      refine (ih _ hshort htail rfl).bind_read fun more _ _ _ h => ?_
      exact .read h
    · exact .read hleft

theorem readElement_moved (h : Tokens.Moved move ts ts') :
    Relocates move (Parsed.Moved move) (readElement ts) (readElement ts') := by
  induction h with
  | @ended t rest rest' end_kind =>
    have hmoved : Tokens.Moved move (t :: rest) (t.moved move :: rest') := .ended end_kind
    have hkind : (t.moved move).kind = .eof := end_kind
    rw [readElement, readElement, end_kind, hkind]
    exact refuse_moved hmoved _
  | @cons t rest rest' tail ih =>
    have hkind : (t.moved move).kind = t.kind := rfl
    rw [readElement, readElement, hkind]
    split
    · refine (readGlosses_moved tail).bind_read fun glosses _ _ _ h => ?_
      refine (expect_moved h (by decide)).bind_read fun mark _ _ _ h => ?_
      exact .read h
    · refine ih.bind_read fun child _ _ _ h => ?_
      refine (expect_moved h (by decide)).bind_read fun mark _ _ _ h => ?_
      exact .read h
    · refine (expect_moved tail (by decide)).bind_read fun name _ _ _ h => ?_
      exact .read h
    · exact .read tail
    · exact refuse_moved (.cons tail) _

theorem skipPlus_moved (h : Tokens.Moved move ts ts') :
    Tokens.Moved move (skipPlus ts) (skipPlus ts') := by
  rw [skipPlus, skipPlus, h.at?]
  split_ifs with hplus
  · exact h.tail_of_at? hplus (by decide)
  · exact h

theorem readAlternative_moved (h : Tokens.Moved move ts ts') :
    Relocates move (Parsed.Moved move) (readAlternative ts) (readAlternative ts') := by
  induction hn : ts.length using Nat.strongRecOn generalizing ts ts' with
  | ind n ih =>
    rw [readAlternative_eq ts, readAlternative_eq ts', h.at?, h.at?]
    split_ifs
    · exact .read h
    · refine (readElement_moved h).bind_read fun e left left' hread hleft => ?_
      have hshort : (skipPlus left).length < n := by
        have hlength := readElement_length hread
        have hskip := skipPlus_length left
        omega
      refine (ih _ hshort (skipPlus_moved hleft) rfl).bind_read fun more _ _ _ h => ?_
      exact .read h

theorem readAlternatives_moved (h : Tokens.Moved move ts ts') :
    Relocates move (Parsed.Moved move) (readAlternatives ts) (readAlternatives ts') := by
  induction hn : ts.length using Nat.strongRecOn generalizing ts ts' with
  | ind n ih =>
    rw [readAlternatives_eq ts, readAlternatives_eq ts']
    refine (readAlternative_moved h).bind_read fun a left left' hread hleft => ?_
    dsimp only
    rw [hleft.at?]
    by_cases hcomma : left.at? .comma
    · have htail := hleft.tail_of_at? hcomma (by decide)
      rw [if_pos hcomma, if_pos hcomma, htail.at?]
      split_ifs
      · exact .read htail
      · have hshort : left.tail.length < n := by
          have hlength := readAlternative_length hread
          have hpos := List.length_pos_iff.mpr (Tokens.ne_nil_of_at? hcomma (by decide))
          rw [List.length_tail]
          omega
        refine (ih _ hshort htail rfl).bind_read fun more _ _ _ h => ?_
        exact .read h
    · rw [if_neg hcomma, if_neg hcomma]
      exact .read hleft

theorem readDefinitions_moved (h : Tokens.Moved move ts ts') :
    (readDefinitions ts').1 = (readDefinitions ts).1 ∧
      Relocates move (Tokens.Moved move) (readDefinitions ts).2 (readDefinitions ts').2 := by
  induction hn : ts.length using Nat.strongRecOn generalizing ts ts' with
  | ind n ih =>
    rw [readDefinitions_eq ts, readDefinitions_eq ts', h.at?]
    split_ifs
    · exact ⟨rfl, .ok h⟩
    · obtain ⟨e, hread, hread'⟩ | ⟨d, left, left', hread, hread', hleft⟩ :=
        (readDefinition_moved h).cases
      · rw [hread, hread']
        exact ⟨rfl, .error e⟩
      · rw [hread, hread']
        dsimp only
        rw [hleft.at?, hleft.at?]
        split_ifs with hcomma
        · have hshort : left.tail.length < n := by
            have hlength := readDefinition_length hread
            rw [List.length_tail]
            omega
          obtain ⟨hmore, hending⟩ := ih _ hshort (hleft.tail_of_at? hcomma (by decide)) rfl
          exact ⟨congrArg (List.cons d) hmore, hending⟩
        · exact ⟨rfl, .ok hleft⟩
        · exact ⟨rfl, refuse_moved hleft _⟩

end Lists

theorem readDeclaration_moved (h : Tokens.Moved move ts ts') :
    Relocates move (Parsed.Moved move) (readDeclaration ts) (readDeclaration ts') := by
  rw [readDeclaration, readDeclaration, h.at?, h.at?]
  split_ifs
  · refine (readHeader_moved h (by decide)).bind_read fun header _ _ _ h => ?_
    obtain ⟨hsame, hending⟩ := readDefinitions_moved h
    dsimp only
    rw [hsame]
    refine hending.bind fun _ _ _ h => ?_
    refine (expect_moved h (by decide)).bind_read fun mark _ _ _ h => ?_
    exact .read h
  · refine (readHeader_moved h (by decide)).bind_read fun header _ _ _ h => ?_
    refine (readAlternatives_moved h).bind_read fun alternatives _ _ _ h => ?_
    refine (expect_moved h (by decide)).bind_read fun mark _ _ _ h => ?_
    exact .read h
  · exact refuse_moved h _

theorem readUnfinished_moved (h : Tokens.Moved move ts ts') :
    readUnfinished ts' = readUnfinished ts := by
  have hkeyword : TokenKind.suffix ≠ .eof := by decide
  rw [readUnfinished, readUnfinished]
  obtain ⟨e, hread, hread'⟩ | ⟨header, left, left', hread, hread', hleft⟩ :=
    (readHeader_moved h hkeyword).cases
  · rw [hread, hread']
  · rw [hread, hread']
    dsimp only
    rw [(readDefinitions_moved hleft).1]

def Reading.moved (move : Position → Position) (r : Reading) : Reading :=
  { r with ending := r.ending.mapError (ParseError.moved move) }

/-- What is read from moved tokens is the same, with its error moved. -/
theorem readDeclarations_moved (h : Tokens.Moved move ts ts') :
    readDeclarations ts' = (readDeclarations ts).moved move := by
  induction hn : ts.length using Nat.strongRecOn generalizing ts ts' with
  | ind n ih =>
    rw [readDeclarations_eq ts, readDeclarations_eq ts', h.at?]
    split_ifs
    · rfl
    · obtain ⟨e, hread, hread'⟩ | ⟨d, left, left', hread, hread', hleft⟩ :=
        (readDeclaration_moved h).cases
      · rw [hread, hread']
        dsimp only
        rw [readUnfinished_moved h]
        rfl
      · rw [hread, hread']
        have hshort : left.length < n := hn ▸ readDeclaration_length hread
        dsimp only
        rw [ih _ hshort hleft rfl]
        rfl

end Morphotactics
