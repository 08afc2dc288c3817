import Morphotactics.Proofs.Grammar.Declared

/-! Readings in a bounded number of steps, by which the grammar of a given text is evaluated. -/
namespace Morphotactics

/-- Alternatives of a rule, if there are at most `n` of them. -/
def alternativesWithin : (n : Nat) → Tokens → Option (Parsed (List Alternative))
  | 0, _ => none
  | n + 1, ts =>
    match readAlternative ts with
    | .error _ => none
    | .ok (alternative, left) =>
      if left.at? .comma then
        if Tokens.at? left.tail .rightBrace then some ([alternative], left.tail)
        else do
          let (more, left) ← alternativesWithin n left.tail
          return (alternative :: more, left)
      else some ([alternative], left)

def ruleWithin (n : Nat) (ts : Tokens) : Option (Parsed Declaration) := do
  let ((name, description), ts) ← (readHeader .rule ts).toOption
  let (alternatives, ts) ← alternativesWithin n ts
  let (_, ts) ← (expect .rightBrace ts).toOption
  return (.rule name description alternatives, ts)

def declarationWithin (n : Nat) (ts : Tokens) : Option (Parsed Declaration) :=
  if ts.at? .rule then ruleWithin n ts else (readDeclaration ts).toOption

/-- Declarations up to the end token, if there are at most `n` of them. -/
def declarationsWithin : (n : Nat) → Tokens → Option (List Declaration)
  | 0, ts => if ts.at? .eof then some [] else none
  | n + 1, ts =>
    if ts.at? .eof then some []
    else do
      let (d, ts) ← declarationWithin (n + 1) ts
      return d :: (← declarationsWithin n ts)

/-- The declarations of a text with at most `n` of them, no rule of which has more alternatives. -/
def declarationsOf? (n : Nat) (text : Text) : Option (List Declaration) := do
  let ts ← (tokenize text).toOption
  if ts.getLast?.map (·.kind) = some .eof then declarationsWithin n ts else none

theorem eq_ok_of_toOption {ε α : Type} {result : Except ε α} {a : α}
    (h : result.toOption = some a) : result = .ok a := by
  cases result with
  | error => cases h
  | ok => exact congrArg Except.ok (Option.some.inj h)

theorem readAlternatives_of_within {n : Nat} {ts : Tokens} {r : Parsed (List Alternative)}
    (h : alternativesWithin n ts = some r) : readAlternatives ts = .ok r := by
  induction n generalizing ts r with
  | zero => cases h
  | succ n ih =>
    rw [alternativesWithin] at h
    rw [readAlternatives]
    cases hfirst : readAlternative ts with
    | error e => simp [hfirst] at h
    | ok first =>
      rw [hfirst] at h
      dsimp only at h ⊢
      split_ifs at h ⊢
      · exact congrArg Except.ok (Option.some.inj h)
      · obtain ⟨⟨more, left⟩, hmore, h⟩ := Option.bind_eq_some_iff.mp h
        obtain rfl := Option.some.inj h
        rw [ih hmore]
        rfl
      · exact congrArg Except.ok (Option.some.inj h)

theorem readDeclaration_of_ruleWithin {n : Nat} {ts : Tokens} {r : Parsed Declaration}
    (hrule : ts.at? .rule) (h : ruleWithin n ts = some r) : readDeclaration ts = .ok r := by
  obtain ⟨⟨⟨name, description⟩, ts₁⟩, hheader, h⟩ := Option.bind_eq_some_iff.mp h
  obtain ⟨⟨alternatives, ts₂⟩, halternatives, h⟩ := Option.bind_eq_some_iff.mp h
  obtain ⟨⟨mark, ts₃⟩, hmark, h⟩ := Option.bind_eq_some_iff.mp h
  obtain rfl := Option.some.inj h
  have hset : ¬ ts.at? .suffix := by
    have hkind : ts.current.kind = .rule := by simpa [Tokens.at?] using hrule
    simp [Tokens.at?, hkind]
  unfold readDeclaration
  rw [if_neg hset, if_pos hrule]
  exact bind_eq_ok_iff.mpr ⟨_, eq_ok_of_toOption hheader, bind_eq_ok_iff.mpr
    ⟨_, readAlternatives_of_within halternatives, bind_eq_ok_iff.mpr
      ⟨_, eq_ok_of_toOption hmark, rfl⟩⟩⟩

theorem readDeclaration_of_within {n : Nat} {ts : Tokens} {r : Parsed Declaration}
    (h : declarationWithin n ts = some r) : readDeclaration ts = .ok r := by
  unfold declarationWithin at h
  split_ifs at h with hrule
  · exact readDeclaration_of_ruleWithin hrule h
  · exact eq_ok_of_toOption h

theorem readDeclarations_of_within {n : Nat} {ts : Tokens} {ds : List Declaration}
    (h : declarationsWithin n ts = some ds) : readDeclarations ts = ⟨ds, none, .ok ()⟩ := by
  induction n generalizing ts ds with
  | zero =>
    obtain ⟨hend, hds⟩ := Option.ite_none_right_eq_some.mp h
    rw [readDeclarations, if_pos hend, Option.some.inj hds]
  | succ n ih =>
    rw [declarationsWithin] at h
    rw [readDeclarations]
    split_ifs at h ⊢
    · rw [Option.some.inj h]
    · obtain ⟨⟨d, left⟩, hd, h⟩ := Option.bind_eq_some_iff.mp h
      obtain ⟨more, hmore, h⟩ := Option.bind_eq_some_iff.mp h
      obtain rfl := Option.some.inj h
      have hread := readDeclaration_of_within hd
      split
      · rename_i herror
        cases hread.symm.trans herror
      · rename_i hok
        cases hread.symm.trans hok
        rw [ih hmore]

/-- A text that is read in a bounded number of steps is loaded as what has been read. -/
theorem ofText_of_declarationsOf? {n : Nat} {text : Text} {ds : List Declaration}
    (h : declarationsOf? n text = some ds) (serial : Nat) :
    (Loading.ofText serial text).outcome = .ok (.ofDeclarations serial ds) := by
  obtain ⟨ts, htokens, h⟩ := Option.bind_eq_some_iff.mp h
  obtain ⟨hend, hds⟩ := Option.ite_none_right_eq_some.mp h
  unfold Loading.ofText
  rw [eq_ok_of_toOption htokens]
  dsimp only
  rw [Loading.ofTokens, if_pos hend, readDeclarations_of_within hds]

theorem Grammar.declared_of_declarationsOf? {n : Nat} {text : Text} {ds : List Declaration}
    (h : declarationsOf? n text = some ds) : (Grammar.ofDeclarations 1 ds).Declared :=
  ⟨1, text, ofText_of_declarationsOf? h 1⟩

end Morphotactics
