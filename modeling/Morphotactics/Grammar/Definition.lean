import Morphotactics.Grammar
import Morphotactics.Grammar.Expectation

/-! Reading of suffix definitions, with their conditions. -/
namespace Morphotactics

/-- The operand of a condition on one end of the stem. -/
def readOperand (kind : ConditionKind) (ts : Tokens) : Except ParseError (Parsed Condition) :=
  if ts.at? .literalSet then do
    let (characters, ts) ← expect .literalSet ts
    return ({ kind, characters }, ts)
  else if ts.at? .pattern then do
    let (pattern, ts) ← expect .pattern ts
    return ({ kind, pattern }, ts)
  else refuse .operand ts

/-- What a condition asks. A condition need not ask anything. -/
def readGuard (ts : Tokens) : Except ParseError (Parsed Condition) :=
  match ts.current.kind with
  | .endsWith => readOperand .endsWith ts.tail
  | .startsWith => readOperand .startsWith ts.tail
  | .isVowel => .ok ({ kind := .isVowel }, ts.tail)
  | .isConsonant => .ok ({ kind := .isConsonant }, ts.tail)
  | _ => .ok ({}, ts)

/-- The change that goes with a condition, of which there is one at most. -/
def readChange (condition : Condition) (ts : Tokens) : Except ParseError (Parsed Condition) :=
  if ts.at? .cut then do
    let (spelled, ts) ← expect .number ts.tail
    match readInteger spelled with
    | .ok cut => return ({ condition with cut }, ts)
    | .error fault => .error (.numeral fault)
  else if ts.at? .replace then do
    let (replacement, ts) ← expect .string ts.tail
    return ({ condition with replacement }, ts)
  else .ok (condition, ts)

def readCondition (ts : Tokens) : Except ParseError (Parsed Condition) :=
  if ts.at? .when then do
    let (condition, ts) ← readGuard ts.tail
    readChange condition ts
  else .ok ({}, ts)

def readGloss (ts : Tokens) : Except ParseError (Parsed (Text × Text)) := do
  let (key, ts) ← expect .identifier ts
  let (_, ts) ← expect .colon ts
  let (gloss, ts) ← expect .string ts
  return ((key, gloss), ts)

def readDefinition (ts : Tokens) : Except ParseError (Parsed SuffixDefinition) := do
  let ((suffix, description), ts) ← readGloss ts
  let (condition, ts) ← readCondition ts
  return (⟨suffix, description, condition⟩, ts)

theorem readOperand_length {kind : ConditionKind} {ts : Tokens} :
    Leaves (· ≤ ts.length) (readOperand kind ts) := by
  unfold readOperand
  split
  · exact expect_length.bind fun _ _ h => .ok (Nat.le_of_lt h)
  split
  · exact expect_length.bind fun _ _ h => .ok (Nat.le_of_lt h)
  · exact .refuse

theorem readGuard_length {ts : Tokens} : Leaves (· ≤ ts.length) (readGuard ts) := by
  have ht : ts.tail.length ≤ ts.length := by simp
  unfold readGuard
  split
  · exact fun _ _ h => Nat.le_trans (readOperand_length h) ht
  · exact fun _ _ h => Nat.le_trans (readOperand_length h) ht
  · exact .ok ht
  · exact .ok ht
  · exact .ok (Nat.le_refl _)

theorem readChange_length {condition : Condition} {ts : Tokens} :
    Leaves (· ≤ ts.length) (readChange condition ts) := by
  have ht : ts.tail.length ≤ ts.length := by simp
  unfold readChange
  split
  · refine expect_length.bind fun spelled left h => ?_
    dsimp only
    split
    · exact .ok (Nat.le_trans (Nat.le_of_lt h) ht)
    · exact .error
  split
  · exact expect_length.bind fun _ _ h => .ok (Nat.le_trans (Nat.le_of_lt h) ht)
  · exact .ok (Nat.le_refl _)

theorem readCondition_length {ts : Tokens} : Leaves (· ≤ ts.length) (readCondition ts) := by
  have ht : ts.tail.length ≤ ts.length := by simp
  unfold readCondition
  split
  · exact readGuard_length.bind fun _ _ hguard _ _ h =>
      Nat.le_trans (readChange_length h) (Nat.le_trans hguard ht)
  · exact .ok (Nat.le_refl _)

theorem readGloss_length {ts : Tokens} : Leaves (· < ts.length) (readGloss ts) :=
  expect_length.bind fun _ _ hkey => expect_length.bind fun _ _ hcolon =>
    expect_length.bind fun _ _ hgloss => .ok (Nat.lt_trans hgloss (Nat.lt_trans hcolon hkey))

theorem readDefinition_length {ts : Tokens} : Leaves (· < ts.length) (readDefinition ts) :=
  readGloss_length.bind fun _ _ hgloss => readCondition_length.bind fun _ _ hcondition =>
    .ok (Nat.lt_of_le_of_lt hcondition hgloss)

/-- Definitions up to a closing brace, with commas between them and perhaps one after the last.
Those that were read are given also where the reading fails. -/
def readDefinitions (ts : Tokens) : List SuffixDefinition × Except ParseError Tokens :=
  if ts.at? .rightBrace then ([], .ok ts)
  else match _h : readDefinition ts with
    | .error e => ([], .error e)
    | .ok (definition, ts') =>
      if ts'.at? .comma then
        let (more, ending) := readDefinitions ts'.tail
        (definition :: more, ending)
      else if ts'.at? .rightBrace then ([definition], .ok ts')
      else ([definition], refuse .definitionEnd ts')
termination_by ts.length
decreasing_by
  have := readDefinition_length _h
  simp only [List.length_tail]
  omega

theorem readDefinitions_length {ts left : Tokens}
    (h : (readDefinitions ts).2 = .ok left) : left.length ≤ ts.length := by
  fun_induction readDefinitions ts with
  | case1 => simp_all
  | case2 => simp at h
  | case3 ts _ d ts' hd _ more ending hr ih =>
    have h1 := ih (by rw [hr]; exact h)
    have h2 := readDefinition_length hd
    simp only [List.length_tail] at h1
    omega
  | case4 ts _ d ts' hd _ _ =>
    simp only [Except.ok.injEq] at h
    exact h ▸ Nat.le_of_lt (readDefinition_length hd)
  | case5 => simp [refuse] at h

end Morphotactics
