import Morphotactics.Grammar.Declaration
import Morphotactics.Proofs.Table

/-! How grammars are spelled in tokens: a context-free grammar of declarations, in which every
production also says what is read from it. -/
namespace Morphotactics

/-- Parts with a comma between each two. -/
inductive Listed {α : Type} (spells : Tokens → α → Prop) : Tokens → List α → Prop
  | single {ts : Tokens} {a : α} (first : spells ts a) : Listed spells ts [a]
  | cons {ts more : Tokens} {comma : Token} {a : α} {rest : List α} (first : spells ts a)
      (comma_kind : comma.kind = .comma) (others : Listed spells more rest) :
      Listed spells (ts ++ comma :: more) (a :: rest)

/-- A name, a colon and a text. -/
inductive SpellsGloss : Tokens → Text × Text → Prop
  | mk {name colon text : Token} (name_kind : name.kind = .identifier)
      (colon_kind : colon.kind = .colon) (text_kind : text.kind = .string) :
      SpellsGloss [name, colon, text] (name.text, text.text)

/-- The glosses in an element are collected: a name that comes again has its last gloss. -/
inductive SpellsElement : Tokens → Element → Prop
  | literal {word : Token} (word_kind : word.kind = .identifier) :
      SpellsElement [word] (.literal word.text)
  | setRef {mark name : Token} (mark_kind : mark.kind = .atSign)
      (name_kind : name.kind = .identifier) : SpellsElement [mark, name] (.setRef name.text)
  | optional {opening closing : Token} {ts : Tokens} {child : Element}
      (opening_kind : opening.kind = .leftBracket) (inner : SpellsElement ts child)
      (closing_kind : closing.kind = .rightBracket) :
      SpellsElement (opening :: ts ++ [closing]) (.optional child)
  | glossed {opening closing : Token} {ts : Tokens} {glosses : List (Text × Text)}
      {table : Table Text} (opening_kind : opening.kind = .leftBrace)
      (inner : Listed SpellsGloss ts glosses) (collects : table.Collects glosses)
      (closing_kind : closing.kind = .rightBrace) :
      SpellsElement (opening :: ts ++ [closing]) (.glossed table)

/-- Elements, each with or without a plus after it. -/
inductive SpellsAlternative : Tokens → Alternative → Prop
  | nil : SpellsAlternative [] []
  | cons {ts more : Tokens} {e : Element} {rest : Alternative} (first : SpellsElement ts e)
      (others : SpellsAlternative more rest) : SpellsAlternative (ts ++ more) (e :: rest)
  | plus {ts more : Tokens} {plus : Token} {e : Element} {rest : Alternative}
      (first : SpellsElement ts e) (plus_kind : plus.kind = .plus)
      (others : SpellsAlternative more rest) : SpellsAlternative (ts ++ plus :: more) (e :: rest)

inductive SpellsOperand (kind : ConditionKind) : Token → Condition → Prop
  | characters {set : Token} (set_kind : set.kind = .literalSet) :
      SpellsOperand kind set { kind, characters := set.text }
  | pattern {pattern : Token} (pattern_kind : pattern.kind = .pattern) :
      SpellsOperand kind pattern { kind, pattern := pattern.text }

/-- What a condition asks, which may be nothing. -/
inductive SpellsGuard : Tokens → Condition → Prop
  | always : SpellsGuard [] {}
  | endsWith {word operand : Token} {c : Condition} (word_kind : word.kind = .endsWith)
      (asked : SpellsOperand .endsWith operand c) : SpellsGuard [word, operand] c
  | startsWith {word operand : Token} {c : Condition} (word_kind : word.kind = .startsWith)
      (asked : SpellsOperand .startsWith operand c) : SpellsGuard [word, operand] c
  | isVowel {word : Token} (word_kind : word.kind = .isVowel) :
      SpellsGuard [word] { kind := .isVowel }
  | isConsonant {word : Token} (word_kind : word.kind = .isConsonant) :
      SpellsGuard [word] { kind := .isConsonant }

/-- A cut or a replacement, or neither. A number stands for the integer that it spells. -/
inductive SpellsChange (c : Condition) : Tokens → Condition → Prop
  | none : SpellsChange c [] c
  | cut {word number : Token} {n : Int} (word_kind : word.kind = .cut)
      (number_kind : number.kind = .number) (value : readInteger number.text = .ok n) :
      SpellsChange c [word, number] { c with cut := n }
  | replace {word text : Token} (word_kind : word.kind = .replace)
      (text_kind : text.kind = .string) :
      SpellsChange c [word, text] { c with replacement := text.text }

inductive SpellsCondition : Tokens → Condition → Prop
  | none : SpellsCondition [] {}
  | when {word : Token} {ts more : Tokens} {asked c : Condition} (word_kind : word.kind = .when)
      (guard : SpellsGuard ts asked) (change : SpellsChange asked more c) :
      SpellsCondition (word :: ts ++ more) c

inductive SpellsDefinition : Tokens → SuffixDefinition → Prop
  | mk {ts more : Tokens} {suffix description : Text} {c : Condition}
      (head : SpellsGloss ts (suffix, description)) (condition : SpellsCondition more c) :
      SpellsDefinition (ts ++ more) ⟨suffix, description, c⟩

/-- No definitions, or several with commas between them and perhaps one after the last. -/
inductive SpellsDefinitions : Tokens → List SuffixDefinition → Prop
  | nil : SpellsDefinitions [] []
  | listed {ts : Tokens} {definitions : List SuffixDefinition}
      (all : Listed SpellsDefinition ts definitions) : SpellsDefinitions ts definitions
  | trailing {ts : Tokens} {comma : Token} {definitions : List SuffixDefinition}
      (all : Listed SpellsDefinition ts definitions) (comma_kind : comma.kind = .comma) :
      SpellsDefinitions (ts ++ [comma]) definitions

inductive SpellsDescription : Tokens → Text → Prop
  | none : SpellsDescription [] []
  | some {colon text : Token} (colon_kind : colon.kind = .colon) (text_kind : text.kind = .string) :
      SpellsDescription [colon, text] text.text

/-- The head of a declaration, with its opening brace. -/
inductive SpellsHeader (keyword : TokenKind) : Tokens → Text × Text → Prop
  | mk {word name opening : Token} {ts : Tokens} {description : Text}
      (word_kind : word.kind = keyword) (name_kind : name.kind = .identifier)
      (described : SpellsDescription ts description) (opening_kind : opening.kind = .leftBrace) :
      SpellsHeader keyword (word :: name :: ts ++ [opening]) (name.text, description)

/-- Where there are several alternatives, the last is left out if it is empty. -/
def withoutEmptyLast (alternatives : List Alternative) : List Alternative :=
  if 1 < alternatives.length ∧ alternatives.getLast? = some [] then alternatives.dropLast
  else alternatives

inductive SpellsDeclaration : Tokens → Declaration → Prop
  | set {head ts : Tokens} {closing : Token} {name description : Text}
      {definitions : List SuffixDefinition} (header : SpellsHeader .suffix head (name, description))
      (body : SpellsDefinitions ts definitions) (closing_kind : closing.kind = .rightBrace) :
      SpellsDeclaration (head ++ ts ++ [closing]) (.set name description definitions)
  | rule {head ts : Tokens} {closing : Token} {name description : Text}
      {alternatives : List Alternative} (header : SpellsHeader .rule head (name, description))
      (body : Listed SpellsAlternative ts alternatives) (closing_kind : closing.kind = .rightBrace) :
      SpellsDeclaration (head ++ ts ++ [closing])
        (.rule name description (withoutEmptyLast alternatives))

/-- Declarations, one after the other. -/
inductive SpellsDeclarations : Tokens → List Declaration → Prop
  | nil : SpellsDeclarations [] []
  | cons {ts more : Tokens} {d : Declaration} {rest : List Declaration}
      (first : SpellsDeclaration ts d) (others : SpellsDeclarations more rest) :
      SpellsDeclarations (ts ++ more) (d :: rest)

section Endless

/-! No part of a grammar has an end token in it. -/

def Tokens.Endless (ts : Tokens) : Prop :=
  ∀ t ∈ ts, t.kind ≠ .eof

@[simp] theorem Tokens.endless_nil : Tokens.Endless [] :=
  List.forall_mem_nil _

@[simp] theorem Tokens.endless_cons {t : Token} {ts : Tokens} :
    Tokens.Endless (t :: ts) ↔ t.kind ≠ .eof ∧ ts.Endless :=
  List.forall_mem_cons

@[simp] theorem Tokens.endless_append {ts more : Tokens} :
    Tokens.Endless (ts ++ more) ↔ ts.Endless ∧ more.Endless :=
  List.forall_mem_append

variable {ts : Tokens}

theorem Listed.endless {α : Type} {spells : Tokens → α → Prop}
    (hspells : ∀ {ts a}, spells ts a → ts.Endless) {all : List α} (h : Listed spells ts all) :
    ts.Endless := by
  induction h with
  | single first => exact hspells first
  | cons first comma_kind others ih => simp [hspells first, comma_kind, ih]

theorem SpellsGloss.endless {gloss : Text × Text} (h : SpellsGloss ts gloss) : ts.Endless := by
  cases h with
  | mk name_kind colon_kind text_kind => simp [name_kind, colon_kind, text_kind]

theorem SpellsElement.endless {e : Element} (h : SpellsElement ts e) : ts.Endless := by
  induction h with
  | literal word_kind => simp [word_kind]
  | setRef mark_kind name_kind => simp [mark_kind, name_kind]
  | optional opening_kind _ closing_kind ih => simp [opening_kind, closing_kind, ih]
  | glossed opening_kind inner _ closing_kind =>
    simp [opening_kind, closing_kind, inner.endless SpellsGloss.endless]

theorem SpellsAlternative.endless {a : Alternative} (h : SpellsAlternative ts a) :
    ts.Endless := by
  induction h with
  | nil => exact Tokens.endless_nil
  | cons first _ ih => simp [first.endless, ih]
  | plus first plus_kind _ ih => simp [first.endless, plus_kind, ih]

theorem SpellsOperand.kind_ne_eof {kind : ConditionKind} {t : Token} {c : Condition}
    (h : SpellsOperand kind t c) : t.kind ≠ .eof := by
  cases h with
  | characters set_kind => simp [set_kind]
  | pattern pattern_kind => simp [pattern_kind]

theorem SpellsGuard.endless {c : Condition} (h : SpellsGuard ts c) : ts.Endless := by
  cases h with
  | always => exact Tokens.endless_nil
  | endsWith word_kind asked | startsWith word_kind asked => simp [word_kind, asked.kind_ne_eof]
  | isVowel word_kind | isConsonant word_kind => simp [word_kind]

theorem SpellsChange.endless {asked c : Condition} (h : SpellsChange asked ts c) :
    ts.Endless := by
  cases h with
  | none => exact Tokens.endless_nil
  | cut word_kind number_kind => simp [word_kind, number_kind]
  | replace word_kind text_kind => simp [word_kind, text_kind]

theorem SpellsCondition.endless {c : Condition} (h : SpellsCondition ts c) : ts.Endless := by
  cases h with
  | none => exact Tokens.endless_nil
  | when word_kind guard change => simp [word_kind, guard.endless, change.endless]

theorem SpellsDefinition.endless {d : SuffixDefinition} (h : SpellsDefinition ts d) :
    ts.Endless := by
  cases h with
  | mk head condition => simp [head.endless, condition.endless]

theorem SpellsDefinitions.endless {definitions : List SuffixDefinition}
    (h : SpellsDefinitions ts definitions) : ts.Endless := by
  cases h with
  | nil => exact Tokens.endless_nil
  | listed all => exact all.endless SpellsDefinition.endless
  | trailing all comma_kind => simp [all.endless SpellsDefinition.endless, comma_kind]

theorem SpellsDescription.endless {description : Text} (h : SpellsDescription ts description) :
    ts.Endless := by
  cases h with
  | none => exact Tokens.endless_nil
  | some colon_kind text_kind => simp [colon_kind, text_kind]

theorem SpellsHeader.endless {keyword : TokenKind} (hkeyword : keyword ≠ .eof)
    {header : Text × Text} (h : SpellsHeader keyword ts header) : ts.Endless := by
  cases h with
  | mk word_kind name_kind described opening_kind =>
    simp [word_kind, hkeyword, name_kind, described.endless, opening_kind]

theorem SpellsDeclaration.endless {d : Declaration} (h : SpellsDeclaration ts d) :
    ts.Endless := by
  cases h with
  | set header body closing_kind =>
    simp [header.endless (by decide), body.endless, closing_kind]
  | rule header body closing_kind =>
    simp [header.endless (by decide), body.endless SpellsAlternative.endless, closing_kind]

theorem SpellsDeclarations.endless {ds : List Declaration} (h : SpellsDeclarations ts ds) :
    ts.Endless := by
  induction h with
  | nil => exact Tokens.endless_nil
  | cons first _ ih => simp [first.endless, ih]

end Endless

/-- The last token of a grammar with declarations closes one. -/
theorem SpellsDeclarations.getLast_kind {ts : Tokens} {ds : List Declaration}
    (h : SpellsDeclarations ts ds) : ∀ t ∈ ts.getLast?, t.kind = .rightBrace := by
  induction h with
  | nil => simp
  | @cons ts more d rest first others ih =>
    intro t ht
    cases hmore : more.getLast? with
    | some last =>
      rw [List.getLast?_append, hmore] at ht
      exact ih t (hmore ▸ ht)
    | none =>
      rw [List.getLast?_append, hmore] at ht
      cases first with
      | set _ _ closing_kind | rule _ _ closing_kind =>
        simp only [List.getLast?_append, List.getLast?_singleton, Option.some_or,
          Option.none_or, Option.mem_def, Option.some.injEq] at ht
        rw [← ht, closing_kind]

end Morphotactics
