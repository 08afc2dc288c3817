import Morphotactics.Proofs.Grammar.Declared
import Morphotactics.Proofs.Segmentation.Following
import Mathlib.Logic.Relation

/-! The remainders that a search finds: those that stripping leads to, each of them once. -/
namespace Morphotactics

/-- What tells a suffix from all others of a grammar: the name of its set, and its text. -/
def Grammar.OwnedSuffix.key (owned : Grammar.OwnedSuffix) : Text × Text :=
  (owned.1.name, owned.2.suffix)

def SuffixAnalysis.key (s : SuffixAnalysis) : Text × Text :=
  (s.category, s.suffix)

/-- The keys of the suffixes that have been stripped, the nearest to the root first. -/
def Remainder.keys (r : Remainder) : List (Text × Text) :=
  r.chain.map SuffixAnalysis.key

/-- Stripping leads from one remainder to another. -/
def Grammar.Reaches (g : Grammar) : Remainder → Remainder → Prop :=
  Relation.ReflTransGen fun r child => child ∈ r.children g

variable {g : Grammar}

theorem reaches_iff {r target : Remainder} :
    g.Reaches r target ↔ r = target ∨ ∃ child ∈ r.children g, g.Reaches child target :=
  Relation.ReflTransGen.cases_head_iff

/-- The search finds what it follows and all that stripping leads to from there. -/
theorem mem_found_iff {rs found : List Remainder} (h : Follows g rs (.ok found))
    {target : Remainder} : target ∈ found ↔ ∃ r ∈ rs, g.Reaches r target := by
  generalize ho : (Except.ok found : Except Pattern.Invalid (List Remainder)) = outcome at h
  induction h generalizing found with
  | nil => cases ho; simp
  | fault | faultBelow | faultBeside => cases ho
  | @cons r rest children found' more next _ _ below beside =>
    obtain rfl := Except.ok.inj ho
    obtain ⟨-, rfl⟩ := Remainder.next_eq_ok_iff.mp next
    rw [List.cons_append, List.mem_cons, List.mem_append, below rfl, beside rfl,
      List.exists_mem_cons_iff, reaches_iff, eq_comm, or_assoc]

theorem keys_of_mem_children {r child : Remainder} (h : child ∈ r.children g) :
    ∃ key, child.keys = key :: r.keys := by
  obtain ⟨-, owned, -, stem, root, -, rfl⟩ := Remainder.mem_children.mp h
  exact ⟨owned.key, rfl⟩

theorem keys_suffix_of_reaches {r target : Remainder} (h : g.Reaches r target) :
    r.keys <:+ target.keys := by
  induction h with
  | refl => exact List.suffix_rfl
  | tail _ hchild ih =>
    obtain ⟨key, hkeys⟩ := keys_of_mem_children hchild
    exact ih.trans (hkeys ▸ List.suffix_cons key _)

section Chains

variable {r child x : Remainder}

theorem chain_of_mem_children (h : child ∈ r.children g) : ∃ s, child.chain = s :: r.chain := by
  obtain ⟨-, owned, -, stem, root, -, rfl⟩ := Remainder.mem_children.mp h
  exact ⟨owned.analysis, rfl⟩

theorem chain_suffix_of_reaches (h : g.Reaches r x) : r.chain <:+ x.chain := by
  induction h with
  | refl => exact List.suffix_rfl
  | tail _ hchild ih =>
    obtain ⟨s, hs⟩ := chain_of_mem_children hchild
    exact ih.trans (hs ▸ List.suffix_cons s _)

theorem chain_ne_nil_of_reaches (hchild : child ∈ r.children g) (h : g.Reaches child x) :
    x.chain ≠ [] := by
  intro hnil
  obtain ⟨s, hs⟩ := chain_of_mem_children hchild
  have hsuffix := chain_suffix_of_reaches h
  rw [hs, hnil] at hsuffix
  exact List.cons_ne_nil s _ (List.suffix_nil.mp hsuffix)

end Chains

/-- No chain of suffixes goes on from both remainders. -/
def Remainder.Apart (a b : Remainder) : Prop :=
  ∀ keys, a.keys <:+ keys → ¬ b.keys <:+ keys

theorem Grammar.WellKeyed.key_nodup (hg : g.WellKeyed) :
    (g.suffixes.map Grammar.OwnedSuffix.key).Nodup := by
  have hkeys : g.suffixes.map Grammar.OwnedSuffix.key =
      g.sets.entries.flatMap fun e => e.2.suffixes.entries.map fun d => (e.1, d.1) := by
    simp only [Grammar.suffixes, Table.values, List.map_flatMap, List.flatMap_map, List.map_map]
    refine List.flatMap_congr fun e he => List.map_congr_left fun d hd => ?_
    exact Prod.ext (hg.set_name e he) (hg.suffix_text e he d hd)
  rw [hkeys, List.nodup_flatMap]
  constructor
  · intro e _
    have hnodup := e.2.suffixes.nodup.map fun a b (h : (e.1, a) = (e.1, b)) => (Prod.mk.inj h).2
    rwa [List.map_map] at hnodup
  · refine (List.pairwise_map.mp g.sets.nodup).imp fun hne key ha hb => ?_
    obtain ⟨d, -, rfl⟩ := List.mem_map.mp ha
    obtain ⟨d', -, he⟩ := List.mem_map.mp hb
    exact hne (congrArg Prod.fst he).symm

/-- Remainders that come after the same one differ in the suffix that was stripped last. -/
theorem children_apart (hg : g.WellKeyed) (r : Remainder) :
    (r.children g).Pairwise Remainder.Apart := by
  have hapart : (g.suffixes.filterMap r.child?).Pairwise Remainder.Apart := by
    refine List.Pairwise.filterMap r.child? ?_ (List.pairwise_map.mp hg.key_nodup)
    intro a b hne ca hca cb hcb keys ha hb
    obtain ⟨_, _, -, rfl⟩ := Remainder.child?_eq_some.mp hca
    obtain ⟨_, _, -, rfl⟩ := Remainder.child?_eq_some.mp hcb
    have hsame := (List.suffix_of_suffix_length_le ha hb (by simp [Remainder.keys,
      Remainder.extend])).eq_of_length (by simp [Remainder.keys, Remainder.extend])
    exact hne (List.cons.inj hsame).1
  unfold Remainder.children
  split_ifs
  · exact List.Pairwise.nil
  · exact (List.mergeSort_perm _ _).symm.pairwise hapart fun ha keys hb ha' => ha keys ha' hb

/-- No chain of suffixes is found twice. -/
theorem found_keys_nodup (hg : g.WellKeyed) {rs found : List Remainder}
    (h : Follows g rs (.ok found)) (hapart : rs.Pairwise Remainder.Apart) :
    (found.map Remainder.keys).Nodup := by
  generalize ho : (Except.ok found : Except Pattern.Invalid (List Remainder)) = outcome at h
  induction h generalizing found with
  | nil => cases ho; simp
  | fault | faultBelow | faultBeside => cases ho
  | @cons r rest children found' more next hbelow hbeside below beside =>
    obtain rfl := Except.ok.inj ho
    obtain ⟨-, rfl⟩ := Remainder.next_eq_ok_iff.mp next
    obtain ⟨hr, hrest⟩ := List.pairwise_cons.mp hapart
    -- What is found below `r` has longer keys than `r`, and they go on from those of `r`; what is
    -- found beside it goes on from a remainder that is apart from `r`.
    have hlonger : ∀ target ∈ found', r.keys.length < target.keys.length := by
      intro target ht
      obtain ⟨child, hchild, hreach⟩ := (mem_found_iff hbelow).mp ht
      obtain ⟨key, hkeys⟩ := keys_of_mem_children hchild
      have := (keys_suffix_of_reaches hreach).length_le
      rw [hkeys, List.length_cons] at this
      omega
    have hunder : ∀ target ∈ r :: found', r.keys <:+ target.keys := by
      intro target ht
      obtain rfl | ht := List.mem_cons.mp ht
      · exact List.suffix_rfl
      · obtain ⟨child, hchild, hreach⟩ := (mem_found_iff hbelow).mp ht
        exact keys_suffix_of_reaches (reaches_iff.mpr (.inr ⟨child, hchild, hreach⟩))
    rw [List.map_append, List.nodup_append', List.map_cons, List.nodup_cons]
    refine ⟨⟨?_, below (children_apart hg r) rfl⟩, beside hrest rfl, ?_⟩
    · intro hmem
      obtain ⟨target, ht, hkeys⟩ := List.mem_map.mp hmem
      exact Nat.ne_of_gt (hlonger target ht) (congrArg List.length hkeys)
    · intro keys ha hb
      rw [← List.map_cons] at ha
      obtain ⟨a, hmem, rfl⟩ := List.mem_map.mp ha
      obtain ⟨b, hb, hkeys⟩ := List.mem_map.mp hb
      obtain ⟨r', hr', hreach⟩ := (mem_found_iff hbeside).mp hb
      exact hr r' hr' a.keys (hunder a hmem) (hkeys ▸ keys_suffix_of_reaches hreach)

end Morphotactics
