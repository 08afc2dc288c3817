import Morphotactics.Proofs.Grammar.Acceptance
import Morphotactics.Proofs.Grammar.Evaluation
import Morphotactics.Proofs.Grammar.Relocation

/-! Loading of one text after another: the second goes on where the first has ended, so that the two
grammars are merged, or the error of the second is found as many lines further down. -/
namespace Morphotactics

/-- A rule block without its number. -/
def Rule.declaration (rule : Rule) : Declaration :=
  .rule rule.name rule.description rule.alternatives

/-- The rule blocks that a table has under a name, without their numbers. -/
def Table.rulesOf (table : Table (List Rule)) (name : Text) : List Declaration :=
  ((table.find? name).getD []).map Rule.declaration

def Declaration.name : Declaration → Text
  | .set name _ _ | .rule name _ _ => name

def Declaration.isRule : Declaration → Bool
  | .set _ _ _ => false
  | .rule _ _ _ => true

/-- The grammar has the sets of two others, where a set of the second takes the place of one of the
first with its name, and the rule blocks of both, which are numbered anew. Names that only the
second has come behind all names of the first. -/
structure Grammar.Merges (g first second : Grammar) : Prop where
  set_names : g.sets.keys = first.sets.keys ++ second.sets.keys.filter (· ∉ first.sets.keys)
  sets : ∀ name, g.sets.find? name = (second.sets.find? name).or (first.sets.find? name)
  rule_names : g.rules.keys = first.rules.keys ++ second.rules.keys.filter (· ∉ first.rules.keys)
  rules : ∀ name, g.rules.rulesOf name = first.rules.rulesOf name ++ second.rules.rulesOf name

def LoadError.moved (move : Position → Position) : LoadError → LoadError
  | .lexical e => .lexical (e.moved move)
  | .parse e => .parse (e.moved move)
  | .noEnd => .noEnd

section Denotation

theorem DeclaresSets.append {ds more : List Declaration} {entries others : List (Text × SuffixSet)}
    (h : DeclaresSets ds entries) (hmore : DeclaresSets more others) :
    DeclaresSets (ds ++ more) (entries ++ others) := by
  induction h with
  | nil => exact hmore
  | set collects _ ih => exact .set collects ih
  | rule _ ih => exact .rule ih

theorem DeclaresSets.unique {ds : List Declaration} {entries others : List (Text × SuffixSet)}
    (h : DeclaresSets ds entries) (hothers : DeclaresSets ds others) : entries = others := by
  induction h generalizing others with
  | nil =>
    cases hothers
    rfl
  | set collects _ ih =>
    cases hothers with
    | set collects' rest => rw [collects.unique collects', ih rest]
  | rule _ ih =>
    cases hothers with
    | rule rest => exact ih rest

theorem ruleBlocks_declaration (serial : Nat) (ds : List Declaration) :
    (ruleBlocks serial ds).map Rule.declaration = ds.filter Declaration.isRule := by
  induction ds generalizing serial with
  | nil => rfl
  | cons d rest ih =>
    cases d with
    | set name description definitions => exact ih serial
    | rule name description alternatives => exact congrArg (List.cons _) (ih (serial + 1))

/-- The blocks of a table, and those of two tables one after the other, are the same but for their
numbers. -/
theorem Table.Groups.append {table first second : Table (List Rule)} {blocks bs cs : List Rule}
    (h : table.Groups blocks) (hfirst : first.Groups bs) (hsecond : second.Groups cs)
    (hsame : blocks.map Rule.declaration = bs.map Rule.declaration ++ cs.map Rule.declaration) :
    table.keys = first.keys ++ second.keys.filter (· ∉ first.keys) ∧
      ∀ name, table.rulesOf name = first.rulesOf name ++ second.rulesOf name := by
  have hname : ∀ rules : List Rule,
      rules.map (·.name) = (rules.map Rule.declaration).map Declaration.name := by
    intro rules
    rw [List.map_map]
    rfl
  have hnamed : ∀ (name : Text) (rules : List Rule), (rules.filter (·.name = name)).map
      Rule.declaration = (rules.map Rule.declaration).filter (·.name = name) := by
    intro name rules
    rw [List.filter_map]
    rfl
  constructor
  · rw [h.keys_eq, hname, hsame, List.map_append, ← hname, ← hname, Table.eraseDups_append_filter,
      ← hfirst.keys_eq, ← hsecond.keys_eq]
  · intro name
    rw [Table.rulesOf, Table.rulesOf, Table.rulesOf, h.find?_eq, hfirst.find?_eq, hsecond.find?_eq,
      hnamed, hnamed, hnamed, hsame, List.filter_append]

variable {g first second : Grammar} {serial i j : Nat} {ds more : List Declaration}

theorem Grammar.Denotes.merges (h : g.Denotes serial (ds ++ more)) (hfirst : first.Denotes i ds)
    (hsecond : second.Denotes j more) : g.Merges first second := by
  obtain ⟨entries, hentries, hcollects⟩ := h.sets
  obtain ⟨before, hbefore, hone⟩ := hfirst.sets
  obtain ⟨after, hafter, htwo⟩ := hsecond.sets
  obtain rfl := hentries.unique (hbefore.append hafter)
  obtain ⟨set_names, sets⟩ := hone.append htwo hcollects
  have hsame : (ruleBlocks serial (ds ++ more)).map Rule.declaration =
      (ruleBlocks i ds).map Rule.declaration ++ (ruleBlocks j more).map Rule.declaration := by
    rw [ruleBlocks_declaration, ruleBlocks_declaration, ruleBlocks_declaration, List.filter_append]
  obtain ⟨rule_names, rules⟩ := h.rules.append hfirst.rules hsecond.rules hsame
  exact ⟨set_names, sets, rule_names, rules⟩

end Denotation

section Loading

variable {a : Text} {ts : Tokens}

theorem exists_eof_of_tokenize (h : tokenize a = .ok ts) :
    ts.getLast?.map (·.kind) = some .eof ∧ ∃ t ∈ ts, t.kind = .eof := by
  obtain ⟨before, position, rfl, -, -⟩ := tokenize_append_newline h
  exact ⟨by simp, _, List.mem_append_right before List.mem_cons_self, rfl⟩

theorem ofText_of_tokenize (serial : Nat) (h : tokenize a = .ok ts) :
    (Loading.ofText serial a).outcome =
      match (readDeclarations ts).ending with
      | .ok () => .ok (.ofDeclarations serial (readDeclarations ts).declarations)
      | .error e => .error (.parse e) := by
  have hend := (exists_eof_of_tokenize h).1
  rw [Loading.ofText, h]
  exact congrArg Loading.outcome (if_pos hend)

/-- The tokens of a text that has been loaded, in front of those of any other line. -/
theorem tokenize_of_loaded {serial : Nat} {g : Grammar}
    (h : (Loading.ofText serial a).outcome = .ok g) :
    ∃ before ds, SpellsDeclarations before ds ∧ g = .ofDeclarations serial ds ∧ ∀ next,
      tokenize (a ++ '\n' :: next) =
        (movedTokens (.lowered (a.count '\n' + 1)) (tokenize next)).map (before ++ ·) := by
  cases hts : tokenize a with
  | error e =>
    rw [Loading.ofText, hts] at h
    cases h
  | ok ts =>
    obtain ⟨before, position, rfl, hends, hnext⟩ := tokenize_append_newline hts
    rw [ofText_of_tokenize serial hts] at h
    cases hending : (readDeclarations (before ++ [⟨.eof, [], position⟩])).ending with
    | error e =>
      rw [hending] at h
      cases h
    | ok =>
      rw [hending] at h
      have hspells := spells_of_readDeclarations hending
      rw [Tokens.beforeEnd_append hends rfl] at hspells
      have hlast : (lastKind none before).any TokenKind.takesSet = false := by
        cases hbefore : before.getLast? with
        | none => simp [lastKind, hbefore]
        | some t =>
          have hkind : t.kind = .rightBrace := hspells.getLast_kind t hbefore
          simp [lastKind, hbefore, hkind, TokenKind.takesSet]
      exact ⟨before, _, hspells, (Except.ok.inj h).symm, hnext hlast⟩

/-- A text that is loaded leaves off where another may begin. If this one is loaded too, so are the
two with a line break between them, and their grammars are merged; if it is not, its error is found
as many lines further down. -/
theorem ofText_append_newline {i : Nat} {first : Grammar}
    (ha : (Loading.ofText i a).outcome = .ok first) (b : Text) (j serial : Nat) :
    (∀ second, (Loading.ofText j b).outcome = .ok second →
        ∃ g, (Loading.ofText serial (a ++ '\n' :: b)).outcome = .ok g ∧ g.Merges first second) ∧
      ∀ e, (Loading.ofText j b).outcome = .error e →
        (Loading.ofText serial (a ++ '\n' :: b)).outcome =
          .error (e.moved (.lowered (a.count '\n' + 1))) := by
  obtain ⟨before, ds, hspells, rfl, htokens⟩ := tokenize_of_loaded ha
  have hjoined := htokens b
  cases hb : tokenize b with
  | error e =>
    rw [hb] at hjoined
    have hfirst : (Loading.ofText j b).outcome = .error (.lexical e) := by
      rw [Loading.ofText, hb]
    have hboth : (Loading.ofText serial (a ++ '\n' :: b)).outcome =
        .error (.lexical (e.moved (.lowered (a.count '\n' + 1)))) := by
      rw [Loading.ofText, hjoined]
      rfl
    rw [hfirst, hboth]
    refine ⟨nofun, fun _ h => ?_⟩
    cases h
    rfl
  | ok ts =>
    rw [hb] at hjoined
    obtain ⟨last, hlast, hkind⟩ := (exists_eof_of_tokenize hb).2
    have hmoved := readDeclarations_moved
      (Tokens.moved_map (.lowered (a.count '\n' + 1)) hlast hkind)
    have hread := readDeclarations_append hspells
      (ts.map (Token.moved (.lowered (a.count '\n' + 1))))
    rw [hmoved] at hread
    have hboth := ofText_of_tokenize serial hjoined
    rw [hread] at hboth
    rw [ofText_of_tokenize j hb, hboth, Reading.moved]
    cases hending : (readDeclarations ts).ending with
    | error e =>
      refine ⟨nofun, fun _ h => ?_⟩
      cases h
      rfl
    | ok =>
      refine ⟨fun second h => ⟨_, rfl, ?_⟩, nofun⟩
      cases h
      exact (Grammar.ofDeclarations_denotes serial _).merges (Grammar.ofDeclarations_denotes i ds)
        (Grammar.ofDeclarations_denotes j _)

end Loading

namespace Parts

/-- A set and a rule, with a comment that ends only with its line. -/
def first : Text :=
  "SUFFIX s \x7b a: \"1\" \x7d RULE r \x7b @s \x7d # old".toList

/-- The set again, a new one, and another block of the rule. -/
def second : Text :=
  "SUFFIX t \x7b \x7d SUFFIX s \x7b b: \"2\" \x7d RULE r \x7b @t \x7d".toList

def firstDeclarations : List Declaration :=
  [.set ['s'] [] [⟨['a'], ['1'], {}⟩], .rule ['r'] [] [[.setRef ['s']]]]

def secondDeclarations : List Declaration :=
  [.set ['t'] [] [], .set ['s'] [] [⟨['b'], ['2'], {}⟩], .rule ['r'] [] [[.setRef ['t']]]]

theorem first_loaded : (Loading.ofText 1 first).outcome =
    .ok (.ofDeclarations 1 firstDeclarations) := by
  have hread : declarationsOf? 2 first = some firstDeclarations := by cbv
  exact ofText_of_declarationsOf? hread 1

theorem second_loaded : (Loading.ofText 2 second).outcome =
    .ok (.ofDeclarations 2 secondDeclarations) := by
  have hread : declarationsOf? 3 second = some secondDeclarations := by cbv
  exact ofText_of_declarationsOf? hread 2

theorem mark_refused (serial : Nat) : (Loading.ofText serial ['?']).outcome =
    .error (.lexical ⟨.unexpected '?', ⟨1, 1⟩⟩) := by
  have htokens : tokenize ['?'] = .error ⟨.unexpected '?', ⟨1, 1⟩⟩ := by cbv
  rw [Loading.ofText, htokens]

end Parts

/-- The two texts are merged, and a mark in the place of the second is refused in line 2. -/
theorem parts_merged :
    (Loading.ofText 1 Parts.first).outcome = .ok (.ofDeclarations 1 Parts.firstDeclarations) ∧
      (∃ g, (Loading.ofText 1 (Parts.first ++ '\n' :: Parts.second)).outcome = .ok g ∧
        g.Merges (.ofDeclarations 1 Parts.firstDeclarations)
          (.ofDeclarations 2 Parts.secondDeclarations)) ∧
        (Loading.ofText 1 (Parts.first ++ ['\n', '?'])).outcome =
          .error (.lexical ⟨.unexpected '?', ⟨2, 1⟩⟩) := by
  have hsecond := (ofText_append_newline Parts.first_loaded Parts.second 2 1).1
  have hmark := (ofText_append_newline Parts.first_loaded ['?'] 2 1).2
  exact ⟨Parts.first_loaded, hsecond _ Parts.second_loaded, hmark _ (Parts.mark_refused 2)⟩

end Morphotactics
