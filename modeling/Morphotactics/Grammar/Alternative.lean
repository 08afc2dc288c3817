import Morphotactics.Grammar.Definition

/-! Reading of the alternatives of a rule. -/
namespace Morphotactics

def readGlosses (ts : Tokens) : Except ParseError (Parsed (List (Text × Text))) :=
  match _h : readGloss ts with
  | .error e => .error e
  | .ok (gloss, ts') =>
    if ts'.at? .comma then do
      let (more, left) ← readGlosses ts'.tail
      return (gloss :: more, left)
    else .ok ([gloss], ts')
termination_by ts.length
decreasing_by
  have := readGloss_length _h
  simp only [List.length_tail]
  omega

def readElement : Tokens → Except ParseError (Parsed Element)
  | [] => refuse .element []
  | t :: ts =>
    match t.kind with
    | .leftBrace => do
      let (glosses, ts) ← readGlosses ts
      let (_, ts) ← expect .rightBrace ts
      return (.glossed (.ofList glosses), ts)
    | .leftBracket => do
      let (child, ts) ← readElement ts
      let (_, ts) ← expect .rightBracket ts
      return (.optional child, ts)
    | .atSign => do
      let (name, ts) ← expect .identifier ts
      return (.setRef name, ts)
    | .identifier => .ok (.literal t.text, ts)
    | _ => refuse .element (t :: ts)

theorem readGlosses_length {ts : Tokens} : Leaves (· < ts.length) (readGlosses ts) := by
  fun_induction readGlosses ts with
  | case1 => exact .error
  | case2 ts gloss ts' hg _ ih =>
    have hgloss := readGloss_length hg
    refine ih.bind fun _ left hmore => .ok ?_
    simp only [List.length_tail] at hmore
    omega
  | case3 ts gloss ts' hg _ => exact .ok (readGloss_length hg)

theorem readElement_length {ts : Tokens} : Leaves (· < ts.length) (readElement ts) := by
  induction ts with
  | nil => exact .refuse
  | cons t ts ih =>
    unfold readElement
    split
    · exact readGlosses_length.bind fun _ _ hglosses => expect_length.bind fun _ _ hmark =>
        .ok (Nat.lt_succ_of_lt (Nat.lt_trans hmark hglosses))
    · exact ih.bind fun _ _ hchild => expect_length.bind fun _ _ hmark =>
        .ok (Nat.lt_succ_of_lt (Nat.lt_trans hmark hchild))
    · exact expect_length.bind fun _ _ hname => .ok (Nat.lt_succ_of_lt hname)
    · exact .ok (Nat.lt_succ_self _)
    · exact .refuse

def skipPlus (ts : Tokens) : Tokens :=
  if ts.at? .plus then ts.tail else ts

theorem skipPlus_length (ts : Tokens) : (skipPlus ts).length ≤ ts.length := by
  unfold skipPlus
  split <;> simp

/-- Elements up to a comma or a closing brace. A plus after an element may be left out. -/
def readAlternative (ts : Tokens) : Except ParseError (Parsed Alternative) :=
  if ts.at? .comma || ts.at? .rightBrace then .ok ([], ts)
  else match _h : readElement ts with
    | .error e => .error e
    | .ok (element, ts') => do
      let (more, left) ← readAlternative (skipPlus ts')
      return (element :: more, left)
termination_by ts.length
decreasing_by
  have := readElement_length _h
  have := skipPlus_length ts'
  omega

theorem readAlternative_length {ts : Tokens} : Leaves (· ≤ ts.length) (readAlternative ts) := by
  fun_induction readAlternative ts with
  | case1 => exact .ok (Nat.le_refl _)
  | case2 => exact .error
  | case3 ts _ element ts' he ih =>
    have helement := readElement_length he
    have hplus := skipPlus_length ts'
    refine ih.bind fun _ left hmore => .ok ?_
    omega

/-- Alternatives with commas between them. After the last there may be another comma. -/
def readAlternatives (ts : Tokens) : Except ParseError (Parsed (List Alternative)) :=
  match _h : readAlternative ts with
  | .error e => .error e
  | .ok (alternative, ts') =>
    if _hc : ts'.at? .comma then
      if Tokens.at? ts'.tail .rightBrace then .ok ([alternative], ts'.tail)
      else do
        let (more, left) ← readAlternatives ts'.tail
        return (alternative :: more, left)
    else .ok ([alternative], ts')
termination_by ts.length
decreasing_by
  have := readAlternative_length _h
  have := List.length_pos_iff.mpr (Tokens.ne_nil_of_at? _hc (by decide))
  simp only [List.length_tail]
  omega

theorem readAlternatives_length {ts : Tokens} : Leaves (· ≤ ts.length) (readAlternatives ts) := by
  fun_induction readAlternatives ts with
  | case1 => exact .error
  | case2 ts a ts' ha hc hb =>
    have hfirst := readAlternative_length ha
    exact .ok (by simp only [List.length_tail]; omega)
  | case3 ts a ts' ha hc hb ih =>
    have hfirst := readAlternative_length ha
    refine ih.bind fun _ left hmore => .ok ?_
    simp only [List.length_tail] at hmore
    omega
  | case4 ts a ts' ha hc => exact .ok (readAlternative_length ha)

end Morphotactics
