import Morphotactics.Proofs.Segmentation.Exploring
import Morphotactics.Proofs.Sorting

/-! Grammars with more suffixes. Whatever a search finds with some of the suffixes of a grammar it
finds with all of them too, in the same order, and it ends if the search with all of them does. -/
namespace Morphotactics

/-- The suffixes of a grammar in their order, each with the name and the description of its set. -/
def Grammar.inventory (g : Grammar) : List (Text × Text × SuffixDefinition) :=
  g.suffixes.map fun owned => (owned.1.name, owned.1.description, owned.2)

/-- What is left after a suffix of an inventory, if that can be stripped. Of the other suffixes of
its set nothing is asked. -/
def Remainder.without? (r : Remainder) (entry : Text × Text × SuffixDefinition) :
    Option Remainder :=
  r.child? (⟨entry.1, entry.2.1, .empty⟩, entry.2.2)

variable {g larger : Grammar} {word : Text}

theorem Remainder.filterMap_child? (g : Grammar) (r : Remainder) :
    g.suffixes.filterMap r.child? = g.inventory.filterMap r.without? := by
  rw [Grammar.inventory, List.filterMap_map]
  rfl

section Sublist

variable (h : g.inventory.Sublist larger.inventory)

include h

theorem exists_owned_of_sublist {owned : Grammar.OwnedSuffix} (howned : owned ∈ g.suffixes) :
    ∃ owned' ∈ larger.suffixes, owned'.2 = owned.2 := by
  obtain ⟨owned', howned', hsame⟩ := List.mem_map.mp (h.subset (List.mem_map_of_mem howned))
  exact ⟨owned', howned', congrArg (·.2.2) hsame⟩

theorem children_sublist (r : Remainder) : (r.children g).Sublist (r.children larger) := by
  unfold Remainder.children
  split_ifs
  · exact List.Sublist.refl _
  · rw [r.filterMap_child?, r.filterMap_child?]
    exact mergeSort_sublist_mergeSort (largest_first_trans Remainder.lastLength)
      (largest_first_total Remainder.lastLength) (h.filterMap r.without?)

/-- One step with fewer suffixes fails nowhere where the step with more of them does not fail. -/
theorem next_sublist {r : Remainder} {next : List Remainder} (hnext : r.next larger = .ok next) :
    r.next g = .ok (r.children g) ∧ (r.children g).Sublist next := by
  obtain ⟨hsound, rfl⟩ := Remainder.next_eq_ok_iff.mp hnext
  refine ⟨Remainder.next_eq_ok_iff.mpr ⟨fun hlong owned howned => ?_, rfl⟩, children_sublist h r⟩
  obtain ⟨owned', howned', hsame⟩ := exists_owned_of_sublist h howned
  rw [← hsame]
  exact hsound hlong owned' howned'

/-- The search with fewer suffixes follows some of the remainders that the other one follows. -/
theorem follows_sublist {rs rs' found' : List Remainder}
    (hfollows : Follows larger rs' (.ok found')) (hrs : rs.Sublist rs') :
    ∃ found, Follows g rs (.ok found) ∧ found.Sublist found' := by
  generalize ho : (Except.ok found' : Except Pattern.Invalid (List Remainder)) = outcome at hfollows
  induction hfollows generalizing rs found' with
  | nil =>
    obtain rfl := List.sublist_nil.mp hrs
    exact ⟨[], .nil, List.nil_sublist _⟩
  | fault | faultBelow | faultBeside => cases ho
  | @cons r rest children below' more' next _ _ below beside =>
    obtain rfl := Except.ok.inj ho
    cases hrs with
    | cons _ hrest =>
      obtain ⟨more, hmore, hsublist⟩ := beside hrest rfl
      exact ⟨more, hmore, hsublist.trans (List.sublist_append_right _ _)⟩
    | cons_cons _ hrest =>
      obtain ⟨hnext, hchildren⟩ := next_sublist h next
      obtain ⟨found, hfound, hbelow⟩ := below hchildren rfl
      obtain ⟨more, hmore, hbeside⟩ := beside hrest rfl
      exact ⟨_, .cons hnext hfound hmore, (hbelow.cons_cons r).append hbeside⟩

end Sublist

/-- If the suffixes of a grammar are, in their order, among those of a larger one, then the search
for all segmentations of a word ends without an error where that with the larger grammar does, and
what it finds is, in its order, among what the other one finds. -/
theorem discoverAll_sublist (h : g.inventory.Sublist larger.inventory) {all' : List Analysis}
    (hall : discoverAll larger word = some (.ok all')) :
    ∃ all, discoverAll g word = some (.ok all) ∧ all.Sublist all' := by
  by_cases hlong : 2 ≤ word.length
  · obtain ⟨children', found', hnext, hfollows, rfl⟩ := (discoverAll_eq_ok_iff hlong).mp hall
    obtain ⟨hnext, hchildren⟩ := next_sublist h hnext
    obtain ⟨found, hfound, hsublist⟩ := follows_sublist h hfollows hchildren
    exact ⟨_, (discoverAll_eq_ok_iff hlong).mpr ⟨_, found, hnext, hfound, rfl⟩,
      (hsublist.map _).append (List.Sublist.refl _)⟩
  · have hshort : discoverAll larger word = some (.ok []) := if_pos (Nat.lt_of_not_le hlong)
    obtain rfl := Except.ok.inj (Option.some.inj (hshort.symm.trans hall))
    exact ⟨[], if_pos (Nat.lt_of_not_le hlong), List.Sublist.refl _⟩

namespace Enlarged

def ending (suffix : Text) (condition : Condition := {}) : SuffixDefinition where
  suffix := suffix
  description := ['x']
  condition := condition

/-- A grammar with one suffix. -/
def few : Grammar :=
  .ofDeclarations 1 [.set ['s'] [] [ending ['a', 'r']]]

/-- The same with a set in front, and with more suffixes on both sides of the first one. -/
def many : Grammar :=
  .ofDeclarations 1 [.set ['q'] [] [ending ['r'] { cut := 1 }],
    .set ['s'] [] [ending ['l', 'a', 'r'], ending ['a', 'r'], ending ['o']]]

theorem few_sublist : few.inventory.Sublist many.inventory := by
  have hfew : few.inventory = [(['s'], [], ending ['a', 'r'])] := rfl
  have hmany : many.inventory = [(['q'], [], ending ['r'] { cut := 1 }),
      (['s'], [], ending ['l', 'a', 'r']), (['s'], [], ending ['a', 'r']), (['s'], [], ending ['o'])] :=
    rfl
  rw [hfew, hmany, List.singleton_sublist]
  simp

def analysis (root : Text) (suffixes : List (Text × Text)) (transformed : Bool := false) :
    Analysis where
  root := root
  suffixes := suffixes.map fun s => ⟨s.2, ['x'], s.1, s.2 ++ "::x".toList⟩
  word := "kolarar".toList
  transformed := transformed

/-- What is found with all suffixes. -/
def all : List Analysis :=
  [analysis "kolar".toList [(['s'], ['a', 'r'])],
   analysis "ko".toList [(['s'], "lar".toList), (['s'], ['a', 'r'])],
   analysis "kol".toList [(['s'], ['a', 'r']), (['s'], ['a', 'r'])],
   analysis "kol".toList [(['q'], ['r']), (['s'], ['a', 'r'])] true,
   analysis "kolar".toList [(['q'], ['r'])] true,
   analysis "ko".toList [(['s'], "lar".toList), (['q'], ['r'])] true,
   analysis "kol".toList [(['s'], ['a', 'r']), (['q'], ['r'])] true,
   analysis "kol".toList [(['q'], ['r']), (['q'], ['r'])] true,
   .identity "kolarar".toList]

theorem discoverAll_many : discoverAll many "kolarar".toList = some (.ok all) := by
  have hfound : (discover many "kolarar".toList 10).toOption = some all := by cbv
  exact discoverAll_of_discover (eq_ok_of_toOption hfound) (by decide)

end Enlarged

/-- With one of the suffixes the search finds some of what it finds with all of them. -/
theorem enlarged_discoverAll_sublist :
    Enlarged.few.inventory.Sublist Enlarged.many.inventory ∧
      discoverAll Enlarged.many "kolarar".toList = some (.ok Enlarged.all) ∧
      ∃ all, discoverAll Enlarged.few "kolarar".toList = some (.ok all) ∧
        all.Sublist Enlarged.all :=
  ⟨Enlarged.few_sublist, Enlarged.discoverAll_many,
    discoverAll_sublist Enlarged.few_sublist Enlarged.discoverAll_many⟩

end Morphotactics
