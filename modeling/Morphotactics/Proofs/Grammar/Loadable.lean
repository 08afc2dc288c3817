import Morphotactics.Proofs.Grammar.Printing

/-! Which grammars can be loaded: those that are well-formed, and no others. The numbers of rule
blocks are not chosen by a text, so grammars are compared without them. -/
namespace Morphotactics

namespace Grammar

/-- The same sets, and under each name the same rule blocks, whatever numbers these have. -/
structure SameButNumbers (g other : Grammar) : Prop where
  sets : g.sets = other.sets
  rule_names : g.rules.keys = other.rules.keys
  rules : ∀ name, g.rules.rulesOf name = other.rules.rulesOf name

variable {g other : Grammar} {serial : Nat}

theorem rulesOf_of_mem {table : Table (List Rule)} {e : Text × List Rule}
    (he : e ∈ table.entries) : table.rulesOf e.1 = e.2.map Rule.declaration := by
  rw [Table.rulesOf, Table.find?_eq_some_iff.mpr he, Option.getD_some]

/-- The other grammar has an entry of the same name, with blocks that differ in numbers only. -/
theorem SameButNumbers.exists_entry (h : g.SameButNumbers other) {e : Text × List Rule}
    (he : e ∈ other.rules.entries) :
    ∃ rules, (e.1, rules) ∈ g.rules.entries ∧
      e.2.map Rule.declaration = rules.map Rule.declaration := by
  have hkey : e.1 ∈ g.rules.keys := h.rule_names ▸ List.mem_map_of_mem he
  obtain ⟨⟨name, rules⟩, hrules, rfl⟩ := List.mem_map.mp hkey
  refine ⟨rules, hrules, ?_⟩
  rw [← rulesOf_of_mem he, ← rulesOf_of_mem hrules, h.rules]

/-- Well-formedness does not depend on numbers. -/
theorem SameButNumbers.wellFormed (h : g.SameButNumbers other) (hg : g.WellFormed) :
    other.WellFormed := by
  have hblock : ∀ e ∈ other.rules.entries, ∀ rule ∈ e.2, rule.name = e.1 ∧ rule.WellFormed := by
    intro e he rule hr
    obtain ⟨rules, hrules, hsame⟩ := h.exists_entry he
    have hmem : rule.declaration ∈ rules.map Rule.declaration :=
      hsame ▸ List.mem_map_of_mem hr
    obtain ⟨twin, htwin, hdeclaration⟩ := List.mem_map.mp hmem
    have hname : twin.name = rule.name := congrArg Declaration.name hdeclaration
    refine ⟨hname ▸ hg.rule_name _ hrules twin htwin, ?_⟩
    rw [Rule.wellFormed_iff, ← hdeclaration, ← Rule.wellFormed_iff]
    exact hg.rules _ hrules twin htwin
  refine ⟨h.sets ▸ hg.set_name, h.sets ▸ hg.sets, fun e he rule hr => (hblock e he rule hr).1,
    fun e he hempty => ?_, fun e he rule hr => (hblock e he rule hr).2⟩
  obtain ⟨rules, hrules, hsame⟩ := h.exists_entry he
  rw [hempty, List.map_nil] at hsame
  exact hg.blocks _ hrules (List.map_eq_nil_iff.mp hsame.symm)

theorem WellFormed.declarations_wellFormed (hg : g.WellFormed) :
    ∀ d ∈ g.declarations, d.WellFormed := by
  refine List.forall_mem_append.mpr ⟨fun d hd => ?_, fun d hd => ?_⟩
  · obtain ⟨set, hset, rfl⟩ := List.mem_map.mp hd
    obtain ⟨e, he, rfl⟩ := List.mem_map.mp hset
    refine ⟨(hg.sets e he).name, fun d hmem => ?_⟩
    obtain ⟨definition, hdefinition, rfl⟩ := List.mem_map.mp hmem
    exact (hg.sets e he).definitions definition hdefinition
  · obtain ⟨rule, hr, rfl⟩ := List.mem_map.mp hd
    obtain ⟨rules, hrules, hmem⟩ := List.mem_flatten.mp hr
    obtain ⟨e, he, rfl⟩ := List.mem_map.mp hrules
    exact Rule.wellFormed_iff.mp (hg.rules e he rule hmem)

theorem declaresSets_rules (rules : List Rule) :
    DeclaresSets (rules.map Rule.declaration) [] := by
  induction rules with
  | nil => exact .nil
  | cons rule rest ih => exact .rule ih

/-- Sets that stand under their own names, as their definitions do, are what their declarations
mean. -/
theorem declaresSets_of_keyed {entries : List (Text × SuffixSet)}
    (h : ∀ e ∈ entries, e.2.name = e.1 ∧ ∀ d ∈ e.2.suffixes.entries, d.2.suffix = d.1) :
    DeclaresSets ((entries.map Prod.snd).map SuffixSet.declaration) entries := by
  induction entries with
  | nil => exact .nil
  | cons e rest ih =>
    obtain ⟨⟨hname, hkeyed⟩, hrest⟩ := List.forall_mem_cons.mp h
    obtain ⟨name, set⟩ := e
    obtain rfl : set.name = name := hname
    have hvalues : set.suffixes.values.map (fun d => (d.suffix, d)) = set.suffixes.entries := by
      rw [Table.values, List.map_map]
      calc set.suffixes.entries.map ((fun d => (d.suffix, d)) ∘ Prod.snd)
          = set.suffixes.entries.map id :=
            List.map_congr_left fun d hd => Prod.ext (hkeyed d hd) rfl
        _ = set.suffixes.entries := List.map_id _
    exact .set (hvalues ▸ set.suffixes.collects_self) (ih hrest)

theorem filter_isRule_declarations (g : Grammar) :
    g.declarations.filter Declaration.isRule = g.allRules.map Rule.declaration := by
  have hsets : (g.sets.values.map SuffixSet.declaration).filter Declaration.isRule = [] := by
    simp [List.filter_eq_nil_iff, SuffixSet.declaration, Declaration.isRule]
  have hrules : (g.allRules.map Rule.declaration).filter Declaration.isRule =
      g.allRules.map Rule.declaration := by
    simp [List.filter_eq_self, Rule.declaration, Declaration.isRule]
  rw [declarations, List.filter_append, hsets, hrules, List.nil_append]

/-- Blocks that stand under their names are grouped by them. -/
theorem groups_of_entries {entries : List (Text × List Rule)}
    (hnodup : (entries.map Prod.fst).Nodup)
    (h : ∀ e ∈ entries, e.2 ≠ [] ∧ ∀ rule ∈ e.2, rule.name = e.1) :
    entries.map Prod.fst = ((entries.map Prod.snd).flatten.map (·.name)).eraseDups ∧
      ∀ name, (entries.lookup name).getD [] =
        (entries.map Prod.snd).flatten.filter (·.name = name) := by
  induction entries with
  | nil => exact ⟨rfl, fun _ => rfl⟩
  | cons e rest ih =>
    obtain ⟨key, rules⟩ := e
    obtain ⟨hfresh, hrest⟩ := List.nodup_cons.mp hnodup
    obtain ⟨⟨hne, hname⟩, hothers⟩ := List.forall_mem_cons.mp h
    obtain ⟨hkeys, hfind⟩ := ih hrest hothers
    -- The first group has one name, which no later one has.
    constructor
    · obtain ⟨rule, more, rfl⟩ := List.exists_cons_of_ne_nil hne
      obtain ⟨hrule, hmore⟩ := List.forall_mem_cons.mp hname
      have hone : ((rule :: more).map (·.name)).eraseDups = [key] := by
        have hnone : (more.map (·.name)).filter (fun name => !name == key) = [] := by
          simp only [List.filter_eq_nil_iff, List.forall_mem_map]
          exact fun other hother => by simp [hmore other hother]
        rw [List.map_cons, List.eraseDups_cons, hrule, hnone]
        rfl
      have hkeep : (rest.map Prod.fst).filter (· ∉ [key]) = rest.map Prod.fst :=
        List.filter_eq_self.mpr fun other hother => by
          simpa using fun heq : other = key => hfresh (heq ▸ hother)
      rw [List.map_cons, List.map_cons, List.flatten_cons, List.map_append,
        Table.eraseDups_append_filter, hone, ← hkeys, hkeep]
      rfl
    · intro name
      rw [List.map_cons, List.flatten_cons, List.filter_append, List.lookup_cons, ← hfind]
      by_cases hkey : name = key
      · subst hkey
        have hall : rules.filter (·.name = name) = rules :=
          List.filter_eq_self.mpr fun rule hr => decide_eq_true (hname rule hr)
        have hnone : rest.lookup name = none := by
          refine List.lookup_eq_none_iff.mpr fun e he => ?_
          have hmem : e.1 ∈ rest.map Prod.fst := List.mem_map_of_mem he
          refine bne_iff_ne.mpr ?_
          rintro rfl
          exact hfresh hmem
        simp [hall, hnone]
      · have hnone : rules.filter (·.name = name) = [] :=
          List.filter_eq_nil_iff.mpr fun rule hr => by simp [hname rule hr, Ne.symm hkey]
        rw [beq_eq_false_iff_ne.mpr hkey, hnone, List.nil_append]

theorem WellFormed.groups (hg : g.WellFormed) : g.rules.Groups g.allRules := by
  obtain ⟨hkeys, hfind⟩ := groups_of_entries g.rules.nodup
    fun e he => ⟨hg.blocks e he, hg.rule_name e he⟩
  exact ⟨hkeys, hfind⟩

/-- A grammar is what its declarations mean, but for the numbers of its rule blocks. -/
theorem WellFormed.ofDeclarations_same (hg : g.WellFormed) (serial : Nat) :
    (ofDeclarations serial g.declarations).SameButNumbers g := by
  have hdenotes := ofDeclarations_denotes serial g.declarations
  obtain ⟨entries, hentries, hcollects⟩ := hdenotes.sets
  have hown : DeclaresSets g.declarations (g.sets.entries ++ []) :=
    (declaresSets_of_keyed fun e he => ⟨hg.set_name e he, (hg.sets e he).keyed⟩).append
      (declaresSets_rules g.allRules)
  rw [List.append_nil] at hown
  obtain rfl := hentries.unique hown
  have hsame : (ruleBlocks serial g.declarations).map Rule.declaration =
      g.allRules.map Rule.declaration ++ ([] : List Rule).map Rule.declaration := by
    rw [ruleBlocks_declaration, filter_isRule_declarations, List.map_nil, List.append_nil]
  have hnone : (Table.empty : Table (List Rule)).Groups [] := ⟨rfl, fun _ => rfl⟩
  obtain ⟨hnames, hrules⟩ := hdenotes.rules.append hg.groups hnone hsame
  refine ⟨hcollects.unique g.sets.collects_self, ?_, fun name => ?_⟩
  · rw [hnames]
    exact List.append_nil _
  · rw [hrules]
    exact List.append_nil _

end Grammar

/-- A grammar is given by some text, whatever the numbers of its rule blocks, exactly if it is
well-formed. -/
theorem exists_loaded_iff_wellFormed (serial : Nat) (g : Grammar) :
    (∃ text loaded, (Loading.ofText serial text).outcome = .ok loaded ∧
      loaded.SameButNumbers g) ↔ g.WellFormed := by
  constructor
  · rintro ⟨text, loaded, hloaded, hsame⟩
    exact hsame.wellFormed (Grammar.wellFormed_of_loaded hloaded)
  · intro hg
    obtain ⟨text, htext⟩ := exists_loaded_of_wellFormed serial hg.declarations_wellFormed
    exact ⟨text, _, htext, hg.ofDeclarations_same serial⟩

end Morphotactics
