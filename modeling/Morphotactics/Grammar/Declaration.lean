import Morphotactics.Grammar.Alternative

/-! Declarations, and how they are read from tokens. -/
namespace Morphotactics

/-- A top-level part of a grammar, with everything in the order in which it is written. -/
inductive Declaration where
  | set (name description : Text) (definitions : List SuffixDefinition)
  | rule (name description : Text) (alternatives : List Alternative)
  deriving DecidableEq

/-- A text after a colon, or the empty one if there is no colon. -/
def readDescription (ts : Tokens) : Except ParseError (Parsed Text) :=
  if ts.at? .colon then do
    let (_, ts) ← expect .colon ts
    expect .string ts
  else .ok ([], ts)

/-- Name and description at the head of a declaration, up to the opening brace. -/
def readHeader (keyword : TokenKind) (ts : Tokens) : Except ParseError (Parsed (Text × Text)) := do
  let (_, ts) ← expect keyword ts
  let (name, ts) ← expect .identifier ts
  let (description, ts) ← readDescription ts
  let (_, ts) ← expect .leftBrace ts
  return ((name, description), ts)

theorem readDescription_length {ts : Tokens} : Leaves (· ≤ ts.length) (readDescription ts) := by
  unfold readDescription
  split
  · exact expect_length.bind fun _ _ hcolon _ _ h =>
      Nat.le_of_lt (Nat.lt_trans (expect_length h) hcolon)
  · exact .ok (Nat.le_refl _)

theorem readHeader_length {keyword : TokenKind} {ts : Tokens} :
    Leaves (· < ts.length) (readHeader keyword ts) := by
  refine expect_length.bind fun _ _ hkeyword => expect_length.bind fun _ _ hname => ?_
  refine readDescription_length.bind fun _ _ hdescription => ?_
  refine expect_length.bind fun _ _ hmark => .ok ?_
  omega

def readDeclaration (ts : Tokens) : Except ParseError (Parsed Declaration) :=
  if ts.at? .suffix then do
    let ((name, description), ts) ← readHeader .suffix ts
    let (definitions, ending) := readDefinitions ts
    let (_, ts) ← expect .rightBrace (← ending)
    return (.set name description definitions, ts)
  else if ts.at? .rule then do
    let ((name, description), ts) ← readHeader .rule ts
    let (alternatives, ts) ← readAlternatives ts
    let (_, ts) ← expect .rightBrace ts
    return (.rule name description alternatives, ts)
  else refuse .declaration ts

theorem readDeclaration_length {ts : Tokens} : Leaves (· < ts.length) (readDeclaration ts) := by
  unfold readDeclaration
  split
  · refine readHeader_length.bind fun _ middle hheader => ?_
    dsimp only
    rcases hread : readDefinitions middle with ⟨definitions, e | left⟩
    · exact .error
    · have hmore : left.length ≤ middle.length := readDefinitions_length (congrArg Prod.snd hread)
      have hshorter := Nat.lt_of_le_of_lt hmore hheader
      exact expect_length.bind fun _ _ hmark => .ok (Nat.lt_trans hmark hshorter)
  split
  · exact readHeader_length.bind fun _ _ hheader => readAlternatives_length.bind fun _ _ hmore =>
      expect_length.bind fun _ _ hmark => .ok (by omega)
  · exact .refuse

end Morphotactics
