import Morphotactics.Proofs.Grammar.Names
import Morphotactics.Proofs.Table
import Mathlib.Data.List.Perm.Basic
import Mathlib.Data.List.Nodup

/-! Grammars that a text declares: their sets, suffixes and rules stand under their own names, no
suffix is empty, and no two rule blocks have the same number. -/
namespace Morphotactics.Grammar

/-- Some text declares the grammar. -/
def Declared (g : Grammar) : Prop :=
  ∃ serial text, (Loading.ofText serial text).outcome = .ok g

/-- Everything in the grammar stands under its own name. -/
structure WellKeyed (g : Grammar) : Prop where
  set_name : ∀ e ∈ g.sets.entries, e.2.name = e.1
  suffix_text : ∀ e ∈ g.sets.entries, ∀ d ∈ e.2.suffixes.entries, d.2.suffix = d.1
  suffix_ne_nil : ∀ e ∈ g.sets.entries, ∀ d ∈ e.2.suffixes.entries, d.2.suffix ≠ []
  rule_name : ∀ e ∈ g.rules.entries, ∀ rule ∈ e.2, rule.name = e.1
  serial_nodup : (g.allRules.map (·.serial)).Nodup

theorem empty_wellKeyed : empty.WellKeyed := by
  constructor <;> simp [empty, Table.empty, allRules, Table.values]

theorem add_set_wellKeyed {g : Grammar} (hg : g.WellKeyed) {serial : Nat}
    {name description : Text} {definitions : List SuffixDefinition}
    (hne : ∀ d ∈ definitions, d.suffix ≠ []) :
    (g.add serial (.set name description definitions)).WellKeyed := by
  have hnew : ∀ e ∈ (Table.ofList (definitions.map fun d => (d.suffix, d))).entries,
      e.2.suffix = e.1 ∧ e.2.suffix ≠ [] := by
    intro e he
    obtain ⟨d, hd, rfl⟩ := List.mem_map.mp (Table.mem_ofList he)
    exact ⟨rfl, hne d hd⟩
  refine ⟨fun e he => ?_, fun e he d hd => ?_, fun e he d hd => ?_, hg.rule_name, hg.serial_nodup⟩
  · obtain rfl | he := Table.mem_insert he
    · rfl
    · exact hg.set_name e he
  · obtain rfl | he := Table.mem_insert he
    · exact (hnew d hd).1
    · exact hg.suffix_text e he d hd
  · obtain rfl | he := Table.mem_insert he
    · exact (hnew d hd).2
    · exact hg.suffix_ne_nil e he d hd

/-- A rule block that joins the others of its name is one more rule block. -/
private theorem flatten_put_perm (name : Text) (rule : Rule) (entries : List (Text × List Rule)) :
    ((Table.put name ((entries.lookup name).getD [] ++ [rule]) entries).map Prod.snd).flatten.Perm
      (rule :: (entries.map Prod.snd).flatten) := by
  induction entries with
  | nil => simp [Table.put]
  | cons e rest ih =>
    obtain ⟨key, group⟩ := e
    by_cases hname : key = name
    · subst hname
      simp only [List.lookup_cons_self, Option.getD_some, Table.put, if_true, List.map_cons,
        List.flatten_cons, List.append_assoc, List.singleton_append]
      exact List.perm_middle
    · have hne : (name == key) = false := beq_eq_false_iff_ne.mpr (Ne.symm hname)
      simp only [Table.put, hname, if_false, List.lookup_cons, hne, List.map_cons,
        List.flatten_cons]
      exact (ih.append_left group).trans List.perm_middle

theorem allRules_add_rule_perm (g : Grammar) (serial : Nat) (name description : Text)
    (alternatives : List Alternative) :
    (g.add serial (.rule name description alternatives)).allRules.Perm
      (⟨name, description, alternatives, serial⟩ :: g.allRules) :=
  flatten_put_perm name _ g.rules.entries

theorem add_rule_wellKeyed {g : Grammar} (hg : g.WellKeyed) {serial : Nat}
    (hserial : ∀ rule ∈ g.allRules, rule.serial < serial) {name description : Text}
    {alternatives : List Alternative} :
    (g.add serial (.rule name description alternatives)).WellKeyed := by
  refine ⟨hg.set_name, hg.suffix_text, hg.suffix_ne_nil, fun e he rule hr => ?_, ?_⟩
  · obtain rfl | he := Table.mem_insert he
    · obtain hr | hr := List.mem_append.mp hr
      · cases hfind : g.rules.find? name with
        | none => simp [hfind] at hr
        | some earlier =>
          rw [hfind] at hr
          exact hg.rule_name _ (Table.find?_eq_some_iff.mp hfind) rule hr
      · rw [List.mem_singleton.mp hr]
    · exact hg.rule_name e he rule hr
  -- The new block has a number that is greater than all before it.
  · have hperm := (allRules_add_rule_perm g serial name description alternatives).map (·.serial)
    rw [hperm.nodup_iff, List.map_cons, List.nodup_cons]
    refine ⟨fun hmem => ?_, hg.serial_nodup⟩
    obtain ⟨rule, hr, he⟩ := List.mem_map.mp hmem
    exact absurd (hserial rule hr) (by simp [he])

theorem addAll_wellKeyed {g : Grammar} (hg : g.WellKeyed) {serial : Nat}
    (hserial : ∀ rule ∈ g.allRules, rule.serial < serial) {declarations : List Declaration}
    (hne : ∀ d ∈ declarations, ∀ suffix ∈ d.suffixes, suffix ≠ []) :
    (g.addAll serial declarations).WellKeyed := by
  induction declarations generalizing g serial with
  | nil => exact hg
  | cons d rest ih =>
    obtain ⟨hfirst, hrest⟩ := List.forall_mem_cons.mp hne
    cases d with
    | set name description definitions =>
      exact ih (add_set_wellKeyed hg (by simpa [Declaration.suffixes] using hfirst)) hserial hrest
    | rule name description alternatives =>
      refine ih (add_rule_wellKeyed hg hserial) (fun rule hr => ?_) hrest
      have hperm := allRules_add_rule_perm g serial name description alternatives
      obtain rfl | hr := List.mem_cons.mp (hperm.mem_iff.mp hr)
      · exact Nat.lt_succ_self serial
      · exact Nat.lt_succ_of_lt (hserial rule hr)

theorem declarations_of_outcome {serial : Nat} {text : Text} {g : Grammar}
    (h : (Loading.ofText serial text).outcome = .ok g) :
    ∃ ts, tokenize text = .ok ts ∧ g = ofDeclarations serial (readDeclarations ts).declarations := by
  unfold Loading.ofText at h
  split at h
  · rename_i ts hts
    refine ⟨ts, hts, ?_⟩
    unfold Loading.ofTokens at h
    split_ifs at h
    dsimp only at h
    split at h
    · exact (Except.ok.inj h).symm
    · cases h
  · cases h

theorem Declared.wellKeyed {g : Grammar} (h : g.Declared) : g.WellKeyed := by
  obtain ⟨serial, text, h⟩ := h
  obtain ⟨ts, hts, rfl⟩ := declarations_of_outcome h
  refine addAll_wellKeyed empty_wellKeyed (by simp [empty, allRules, Table.empty, Table.values]) ?_
  intro d hd suffix hsuffix
  exact tokenize_identifiers_ne_nil hts suffix (readDeclarations_identifiers ts d hd hsuffix)

section Lookup

variable {g : Grammar}

theorem mem_suffixes {owned : OwnedSuffix} :
    owned ∈ g.suffixes ↔ (∃ name, (name, owned.1) ∈ g.sets.entries) ∧
      ∃ suffix, (suffix, owned.2) ∈ owned.1.suffixes.entries := by
  obtain ⟨set, d⟩ := owned
  simp [suffixes, Table.values]

theorem suffixSet_eq_ok_iff {name : Text} {set : SuffixSet} :
    g.suffixSet name = .ok set ↔ (name, set) ∈ g.sets.entries := by
  rw [← Table.find?_eq_some_iff]
  unfold suffixSet
  cases g.sets.find? name <;> simp

theorem mem_suffixes_of_suffixSet {name : Text} {set : SuffixSet}
    (hset : g.suffixSet name = .ok set) {d : SuffixDefinition} (hd : d ∈ set.suffixes.values) :
    (set, d) ∈ g.suffixes := by
  obtain ⟨e, he, rfl⟩ := List.mem_map.mp hd
  exact mem_suffixes.mpr ⟨⟨name, suffixSet_eq_ok_iff.mp hset⟩, e.1, he⟩

theorem rulesNamed_eq_ok_iff {name : Text} {rules : List Rule} :
    g.rulesNamed name = .ok rules ↔ (name, rules) ∈ g.rules.entries := by
  rw [← Table.find?_eq_some_iff]
  unfold rulesNamed
  cases g.rules.find? name <;> simp

theorem mem_allRules_of_rulesNamed {name : Text} {rules : List Rule}
    (hrules : g.rulesNamed name = .ok rules) {rule : Rule} (hr : rule ∈ rules) :
    rule ∈ g.allRules :=
  List.mem_flatten.mpr
    ⟨rules, List.mem_map.mpr ⟨_, rulesNamed_eq_ok_iff.mp hrules, rfl⟩, hr⟩

namespace WellKeyed

theorem suffix_ne_nil_of_mem (hg : g.WellKeyed) {owned : OwnedSuffix} (h : owned ∈ g.suffixes) :
    owned.2.suffix ≠ [] := by
  obtain ⟨⟨name, hset⟩, suffix, hd⟩ := mem_suffixes.mp h
  exact hg.suffix_ne_nil _ hset _ hd

theorem name_of_suffixSet (hg : g.WellKeyed) {name : Text} {set : SuffixSet}
    (hset : g.suffixSet name = .ok set) : set.name = name :=
  hg.set_name _ (suffixSet_eq_ok_iff.mp hset)

theorem suffixSet_of_mem (hg : g.WellKeyed) {owned : OwnedSuffix} (h : owned ∈ g.suffixes) :
    g.suffixSet owned.1.name = .ok owned.1 ∧ owned.2 ∈ owned.1.suffixes.values := by
  obtain ⟨⟨name, hset⟩, suffix, hd⟩ := mem_suffixes.mp h
  rw [hg.set_name _ hset]
  exact ⟨suffixSet_eq_ok_iff.mpr hset, List.mem_map.mpr ⟨_, hd, rfl⟩⟩

theorem mem_allRules (hg : g.WellKeyed) {rule : Rule} :
    rule ∈ g.allRules ↔ ∃ rules, g.rulesNamed rule.name = .ok rules ∧ rule ∈ rules := by
  simp only [allRules, Table.values, List.mem_flatten, List.mem_map, rulesNamed_eq_ok_iff]
  constructor
  · rintro ⟨_, ⟨e, he, rfl⟩, hr⟩
    exact ⟨e.2, hg.rule_name e he rule hr ▸ he, hr⟩
  · rintro ⟨rules, he, hr⟩
    exact ⟨rules, ⟨_, he, rfl⟩, hr⟩

end WellKeyed
end Lookup

end Morphotactics.Grammar
