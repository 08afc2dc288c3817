import Morphotactics.Grammar.Loading
import Morphotactics.Proofs.Table

/-! What declarations mean: of the sets of one name the last counts, in the place of the first, and
the rule blocks of one name stand together in the order in which they are written. -/
namespace Morphotactics

/-- The suffix sets among declarations, each with its suffixes collected under their own texts. -/
inductive DeclaresSets : List Declaration → List (Text × SuffixSet) → Prop
  | nil : DeclaresSets [] []
  | set {name description : Text} {definitions : List SuffixDefinition}
      {suffixes : Table SuffixDefinition} {rest : List Declaration}
      {entries : List (Text × SuffixSet)}
      (collects : suffixes.Collects (definitions.map fun d => (d.suffix, d)))
      (others : DeclaresSets rest entries) :
      DeclaresSets (.set name description definitions :: rest)
        ((name, ⟨name, description, suffixes⟩) :: entries)
  | rule {name description : Text} {alternatives : List Alternative} {rest : List Declaration}
      {entries : List (Text × SuffixSet)} (others : DeclaresSets rest entries) :
      DeclaresSets (.rule name description alternatives :: rest) entries

/-- The rule blocks among declarations, numbered one after the other. -/
def ruleBlocks (serial : Nat) : List Declaration → List Rule
  | [] => []
  | .set _ _ _ :: rest => ruleBlocks serial rest
  | .rule name description alternatives :: rest =>
    ⟨name, description, alternatives, serial⟩ :: ruleBlocks (serial + 1) rest

/-- The table has the names of the blocks in order of first appearance, each with its blocks. -/
structure Table.Groups (table : Table (List Rule)) (blocks : List Rule) : Prop where
  keys_eq : table.keys = (blocks.map (·.name)).eraseDups
  find?_eq : ∀ name, (table.find? name).getD [] = blocks.filter (·.name = name)

/-- The grammar is what the declarations mean, with their rule blocks numbered from `serial` on. -/
structure Grammar.Denotes (g : Grammar) (serial : Nat) (ds : List Declaration) : Prop where
  sets : ∃ entries, DeclaresSets ds entries ∧ g.sets.Collects entries
  rules : g.rules.Groups (ruleBlocks serial ds)

theorem Table.Groups.insert {table : Table (List Rule)} {blocks : List Rule}
    (h : table.Groups blocks) (rule : Rule) :
    (table.insert rule.name ((table.find? rule.name).getD [] ++ [rule])).Groups
      (blocks ++ [rule]) := by
  constructor
  · rw [Table.keys_insert, h.keys_eq, List.map_append, List.map_singleton,
      Table.eraseDups_append_singleton]
  · intro name
    rw [Table.find?_insert, List.filter_append, ← h.find?_eq name]
    by_cases hname : name = rule.name
    · subst hname
      simp
    · have hother : ¬ rule.name = name := fun he => hname he.symm
      simp [hname, hother]

namespace Grammar

theorem addAll_sets_collects {g : Grammar} {done : List (Text × SuffixSet)}
    (h : g.sets.Collects done) (serial : Nat) (ds : List Declaration) :
    ∃ entries, DeclaresSets ds entries ∧ (g.addAll serial ds).sets.Collects (done ++ entries) := by
  induction ds generalizing g done serial with
  | nil => exact ⟨[], .nil, by simpa [addAll] using h⟩
  | cons d rest ih =>
    cases d with
    | set name description definitions =>
      have hsuffixes := Table.collects_ofList (definitions.map fun d => (d.suffix, d))
      obtain ⟨entries, hentries, hcollects⟩ := ih (g := g.add serial (.set name description
        definitions)) (h.insert name ⟨name, description, _⟩) serial
      refine ⟨_, .set hsuffixes hentries, ?_⟩
      rwa [List.append_assoc, List.singleton_append] at hcollects
    | rule name description alternatives =>
      obtain ⟨entries, hentries, hcollects⟩ := ih (g := g.add serial (.rule name description
        alternatives)) h (serial + 1)
      exact ⟨entries, .rule hentries, hcollects⟩

theorem addAll_rules_groups {g : Grammar} {done : List Rule} (h : g.rules.Groups done)
    (serial : Nat) (ds : List Declaration) :
    (g.addAll serial ds).rules.Groups (done ++ ruleBlocks serial ds) := by
  induction ds generalizing g done serial with
  | nil => simpa [addAll, ruleBlocks] using h
  | cons d rest ih =>
    cases d with
    | set name description definitions => exact ih (g := g.add serial (.set _ _ _)) h serial
    | rule name description alternatives =>
      have hadd := ih (g := g.add serial (.rule name description alternatives))
        (h.insert ⟨name, description, alternatives, serial⟩) (serial + 1)
      rwa [List.append_assoc, List.singleton_append] at hadd

theorem ofDeclarations_denotes (serial : Nat) (ds : List Declaration) :
    (ofDeclarations serial ds).Denotes serial ds := by
  have hsets : empty.sets.Collects [] := Table.collects_empty
  have hrules : empty.rules.Groups [] := ⟨rfl, fun _ => rfl⟩
  exact ⟨addAll_sets_collects hsets serial ds, addAll_rules_groups hrules serial ds⟩

end Grammar

end Morphotactics
