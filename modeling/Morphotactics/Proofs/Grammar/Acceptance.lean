import Mathlib
import Morphotactics.Proofs.Grammar.Declaration
import Morphotactics.Proofs.Grammar.Denotation

/-! Which lists of tokens are grammars, and what they mean: a grammar is loaded exactly if the
tokens before the first end token spell declarations, and then it is what these mean. -/
namespace Morphotactics

/-- The tokens before the first end token. -/
def Tokens.beforeEnd (ts : Tokens) : Tokens :=
  ts.takeWhile (·.kind ≠ .eof)

theorem Tokens.beforeEnd_append {ts left : Tokens} (hts : ts.Endless) (hleft : left.at? .eof) :
    (ts ++ left).beforeEnd = ts := by
  have hall : ∀ t ∈ ts, decide (t.kind ≠ .eof) = true := fun t ht => decide_eq_true (hts t ht)
  have hstop : left.takeWhile (·.kind ≠ .eof) = [] := by
    cases left with
    | nil => rfl
    | cons t rest =>
      have hkind : t.kind = .eof := of_decide_eq_true hleft
      simp [hkind]
  rw [Tokens.beforeEnd, List.takeWhile_append_of_pos hall, hstop, List.append_nil]

theorem Tokens.eq_beforeEnd_append (ts : Tokens) :
    ∃ left, ts = ts.beforeEnd ++ left ∧ left.at? .eof := by
  refine ⟨ts.dropWhile (·.kind ≠ .eof), List.takeWhile_append_dropWhile.symm, ?_⟩
  cases hdrop : ts.dropWhile (·.kind ≠ .eof) with
  | nil => rfl
  | cons t rest =>
    have hfirst := List.head?_dropWhile_not (fun t : Token => decide (t.kind ≠ .eof)) ts
    rw [hdrop] at hfirst
    simpa using hfirst

variable {ts : Tokens}

theorem readDeclarations_of_spells {ds : List Declaration}
    (h : SpellsDeclarations ts.beforeEnd ds) : readDeclarations ts = ⟨ds, none, .ok ()⟩ := by
  obtain ⟨left, hts, hend⟩ := ts.eq_beforeEnd_append
  rw [hts, readDeclarations_append h, readDeclarations_eq left, if_pos hend, List.append_nil]

theorem spells_of_readDeclarations (h : (readDeclarations ts).ending = .ok ()) :
    SpellsDeclarations ts.beforeEnd (readDeclarations ts).declarations := by
  obtain ⟨taken, left, htaken, hts, hend⟩ := readDeclarations_sound h
  have hbefore : ts.beforeEnd = taken := by
    rw [hts]
    exact Tokens.beforeEnd_append htaken.endless hend
  rwa [hbefore]

/-- A list that is closed by an end token is loaded exactly if what stands before its first end
token spells declarations, and then the grammar is what these mean. -/
theorem ofTokens_ok_iff_spells (serial : Nat) (hend : ts.getLast?.map (·.kind) = some .eof) :
    ((∃ g, (Loading.ofTokens serial ts).outcome = .ok g) ↔
        ∃ ds, SpellsDeclarations ts.beforeEnd ds) ∧
      ∀ ds, SpellsDeclarations ts.beforeEnd ds →
        ∃ g, (Loading.ofTokens serial ts).outcome = .ok g ∧ g.Denotes serial ds := by
  have hloaded : ∀ ds, SpellsDeclarations ts.beforeEnd ds →
      ∃ g, (Loading.ofTokens serial ts).outcome = .ok g ∧ g.Denotes serial ds := by
    intro ds hds
    refine ⟨_, ?_, Grammar.ofDeclarations_denotes serial ds⟩
    rw [Loading.ofTokens, if_pos hend, readDeclarations_of_spells hds]
  refine ⟨⟨fun ⟨g, hg⟩ => ?_, fun ⟨ds, hds⟩ => ?_⟩, hloaded⟩
  · rw [Loading.ofTokens, if_pos hend] at hg
    dsimp only at hg
    split at hg
    · rename_i hok
      exact ⟨_, spells_of_readDeclarations hok⟩
    · cases hg
  · obtain ⟨g, hg, -⟩ := hloaded ds hds
    exact ⟨g, hg⟩

namespace Sample

def word (kind : TokenKind) (text : String) : Token :=
  ⟨kind, text.toList, .start⟩

/-- A set with a cut and a comma after its last suffix. -/
def setTokens : Tokens :=
  [word .suffix "SUFFIX", word .identifier "s", word .leftBrace "", word .identifier "a",
    word .colon ":", word .string "x", word .when "WHEN", word .cut "CUT", word .number "02",
    word .comma ",", word .rightBrace ""]

/-- A rule with an optional set, a gloss that is given twice, and a comma after its alternative. -/
def ruleTokens : Tokens :=
  [word .rule "RULE", word .identifier "r", word .colon ":", word .string "d", word .leftBrace "",
    word .leftBracket "[", word .atSign "@", word .identifier "s", word .rightBracket "]",
    word .plus "+", word .leftBrace "", word .identifier "k", word .colon ":", word .string "1",
    word .comma ",", word .identifier "k", word .colon ":", word .string "2",
    word .rightBrace "", word .comma ",", word .rightBrace ""]

/-- After the first end token comes what is no part of a grammar. -/
def tokens : Tokens :=
  setTokens ++ (ruleTokens ++ [word .eof "", word .rightBrace "", word .eof ""])

def declarations : List Declaration :=
  [.set ['s'] [] [⟨['a'], ['x'], { cut := 2 }⟩],
    .rule ['r'] ['d'] [[.optional (.setRef ['s']), .glossed (.ofList [(['k'], ['2'])])]]]

theorem setTokens_spells :
    SpellsDeclaration setTokens (.set ['s'] [] [⟨['a'], ['x'], { cut := 2 }⟩]) := by
  have hvalue : readInteger "02".toList = .ok 2 := by cbv
  have hcondition : SpellsCondition [word .when "WHEN", word .cut "CUT", word .number "02"]
      { cut := 2 } :=
    .when rfl .always (.cut rfl rfl hvalue)
  have hdefinition : SpellsDefinition [word .identifier "a", word .colon ":", word .string "x",
      word .when "WHEN", word .cut "CUT", word .number "02"] ⟨['a'], ['x'], { cut := 2 }⟩ :=
    .mk (.mk rfl rfl rfl) hcondition
  exact .set (.mk rfl rfl .none rfl) (.trailing (.single hdefinition) rfl) rfl

theorem ruleTokens_spells :
    SpellsDeclaration ruleTokens (.rule ['r'] ['d']
      [[.optional (.setRef ['s']), .glossed (.ofList [(['k'], ['2'])])]]) := by
  have hcollects : (Table.ofList [(['k'], ['2'])]).Collects [(['k'], ['1']), (['k'], ['2'])] :=
    Table.collects_ofList [(['k'], ['1']), (['k'], ['2'])]
  have helement : SpellsElement [word .leftBracket "[", word .atSign "@", word .identifier "s",
      word .rightBracket "]"] (.optional (.setRef ['s'])) :=
    .optional rfl (.setRef rfl rfl) rfl
  have hglossed : SpellsElement [word .leftBrace "", word .identifier "k", word .colon ":",
      word .string "1", word .comma ",", word .identifier "k", word .colon ":", word .string "2",
      word .rightBrace ""] (.glossed (.ofList [(['k'], ['2'])])) :=
    .glossed rfl (.cons (.mk rfl rfl rfl) rfl (.single (.mk rfl rfl rfl))) hcollects rfl
  have hplus : (word .plus "+").kind = .plus := rfl
  have halternative := SpellsAlternative.plus helement hplus (.cons hglossed .nil)
  exact .rule (.mk rfl rfl (.some rfl rfl) rfl) (.cons halternative rfl (.single .nil)) rfl

end Sample

/-- The tokens up to the first end token spell a set and a rule, which are what is loaded. -/
theorem sample_loaded :
    Sample.tokens.getLast?.map (·.kind) = some .eof ∧
      SpellsDeclarations Sample.tokens.beforeEnd Sample.declarations ∧
        ∃ g, (Loading.ofTokens 1 Sample.tokens).outcome = .ok g ∧
          g.Denotes 1 Sample.declarations := by
  have hend : Sample.tokens.getLast?.map (·.kind) = some .eof := rfl
  have hspells : SpellsDeclarations Sample.tokens.beforeEnd Sample.declarations :=
    .cons Sample.setTokens_spells (.cons Sample.ruleTokens_spells .nil)
  exact ⟨hend, hspells, (ofTokens_ok_iff_spells 1 hend).2 _ hspells⟩

end Morphotactics
