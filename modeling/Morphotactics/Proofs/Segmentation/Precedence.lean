import Morphotactics.Proofs.Segmentation.Discovery
import Morphotactics.Proofs.Sorting

/-! The order in which a search finds analyses. Compared from the end of the word inward, a chain of
suffixes comes before those that go on from it, and where two chains part the longer suffix comes
first, or else the one that is declared earlier. -/
namespace Morphotactics

/-- The number of suffixes that are declared before this one, in earlier sets and in its own. -/
def Grammar.place (g : Grammar) (s : SuffixAnalysis) : Nat :=
  (g.suffixes.map Grammar.OwnedSuffix.analysis).idxOf s

/-- The longer suffix is tried first, and of two that are equally long the one declared earlier. -/
def Grammar.Prefers (g : Grammar) (s t : SuffixAnalysis) : Prop :=
  t.suffix.length < s.suffix.length ∨
    s.suffix.length = t.suffix.length ∧ g.place s < g.place t

/-- From the outermost suffix inward, the chain ends where the other goes on, or it has the suffix
that is tried first where they part. -/
def Grammar.Sooner (g : Grammar) (chain other : List SuffixAnalysis) : Prop :=
  List.Lex g.Prefers chain.reverse other.reverse

/-- The analysis has suffixes, and the other one has a later chain or is the word itself. -/
def Grammar.FindsFirst (g : Grammar) (a b : Analysis) : Prop :=
  a.suffixes ≠ [] ∧ (b.suffixes = [] ∨ g.Sooner a.suffixes b.suffixes)

variable {g : Grammar} {word : Text}

instance : Std.Asymm g.Prefers where
  asymm s t hst hts := by
    unfold Grammar.Prefers at hst hts
    omega

theorem Grammar.FindsFirst.asymm {a b : Analysis} (h : g.FindsFirst a b) : ¬ g.FindsFirst b a := by
  rintro ⟨hb, hlater⟩
  obtain ⟨ha, hsooner⟩ := h
  exact List.Lex.asymm _ |>.asymm _ _ (hsooner.resolve_left hb) (hlater.resolve_left ha)

/-- Of two suffixes of the grammar the one that stands before the other has the smaller place. -/
theorem Grammar.WellKeyed.pairwise_place (hg : g.WellKeyed) :
    g.suffixes.Pairwise fun a b => g.place a.analysis < g.place b.analysis := by
  have hkeys : (g.suffixes.map Grammar.OwnedSuffix.analysis).map SuffixAnalysis.key =
      g.suffixes.map Grammar.OwnedSuffix.key := List.map_map
  have hnodup : (g.suffixes.map Grammar.OwnedSuffix.analysis).Nodup :=
    (hkeys ▸ hg.key_nodup).of_map
  rw [← List.pairwise_map (R := fun s t => g.place s < g.place t), List.pairwise_iff_getElem]
  intro i j hi hj hij
  unfold Grammar.place
  rwa [hnodup.idxOf_getElem, hnodup.idxOf_getElem]

section Remainders

variable {r child x : Remainder}

/-- What is left after one suffix is tried in the order of the suffixes. -/
theorem children_prefers (hg : g.WellKeyed) (r : Remainder) :
    (r.children g).Pairwise fun a b =>
      ∃ s t, a.chain = s :: r.chain ∧ b.chain = t :: r.chain ∧ g.Prefers s t := by
  have hdeclared : (g.suffixes.filterMap r.child?).Pairwise fun a b =>
      ∃ s t, a.chain = s :: r.chain ∧ b.chain = t :: r.chain ∧ g.place s < g.place t := by
    refine List.Pairwise.filterMap r.child? ?_ hg.pairwise_place
    intro first second hplace a ha b hb
    obtain ⟨_, _, -, rfl⟩ := Remainder.child?_eq_some.mp ha
    obtain ⟨_, _, -, rfl⟩ := Remainder.child?_eq_some.mp hb
    exact ⟨first.analysis, second.analysis, rfl, rfl, hplace⟩
  have hlast : ∀ a ∈ g.suffixes.filterMap r.child?, ∃ s, a.chain = s :: r.chain := by
    intro a ha
    obtain ⟨owned, -, hchild⟩ := List.mem_filterMap.mp ha
    obtain ⟨_, _, -, rfl⟩ := Remainder.child?_eq_some.mp hchild
    exact ⟨owned.analysis, rfl⟩
  unfold Remainder.children
  split_ifs
  · exact List.Pairwise.nil
  · refine (pairwise_mergeSort_of_pairwise (largest_first_trans Remainder.lastLength)
      (largest_first_total Remainder.lastLength) hdeclared).imp_of_mem ?_
    rintro a b ha hb ⟨hle, hsame⟩
    obtain ⟨s, hs⟩ := hlast a (List.mem_mergeSort.mp ha)
    obtain ⟨t, ht⟩ := hlast b (List.mem_mergeSort.mp hb)
    have hslength : a.lastLength = s.suffix.length := by simp [Remainder.lastLength, hs]
    have htlength : b.lastLength = t.suffix.length := by simp [Remainder.lastLength, ht]
    rw [decide_eq_true_eq] at hle hsame
    refine ⟨s, t, hs, ht, ?_⟩
    obtain hless | hequal := Nat.lt_or_eq_of_le hle
    · exact .inl (by omega)
    · obtain ⟨s', t', hs', ht', hplace⟩ := hsame (by omega)
      obtain ⟨rfl, -⟩ := List.cons.inj (hs.symm.trans hs')
      obtain ⟨rfl, -⟩ := List.cons.inj (ht.symm.trans ht')
      exact .inr ⟨by omega, hplace⟩

/-- All chains that go on from one remainder come before those that go on from the other. -/
def Grammar.GoesFirst (g : Grammar) (a b : Remainder) : Prop :=
  ∀ chain other, a.chain <:+ chain → b.chain <:+ other → g.Sooner chain other

theorem Grammar.GoesFirst.sooner {a b : Remainder} (h : g.GoesFirst a b) :
    g.Sooner a.chain b.chain :=
  h _ _ List.suffix_rfl List.suffix_rfl

theorem Grammar.GoesFirst.of_reaches {a b c d : Remainder} (h : g.GoesFirst a b)
    (hc : g.Reaches a c) (hd : g.Reaches b d) : g.GoesFirst c d :=
  fun chain other hchain hother => h chain other ((chain_suffix_of_reaches hc).trans hchain)
    ((chain_suffix_of_reaches hd).trans hother)

theorem children_goesFirst (hg : g.WellKeyed) (r : Remainder) :
    (r.children g).Pairwise g.GoesFirst := by
  refine (children_prefers hg r).imp ?_
  rintro a b ⟨s, t, hs, ht, hprefers⟩ chain other hchain hother
  obtain ⟨front, rfl⟩ := hs ▸ hchain
  obtain ⟨front', rfl⟩ := ht ▸ hother
  -- The chains agree in what has been stripped before, and part where the two suffixes stand.
  have hpart : List.Lex g.Prefers (r.chain.reverse ++ s :: front.reverse)
      (r.chain.reverse ++ t :: front'.reverse) := List.Lex.append_left _ (.rel hprefers) _
  simpa [Grammar.Sooner] using hpart

/-- A chain comes before those that go on from it. -/
theorem sooner_of_child (hchild : child ∈ r.children g) (h : g.Reaches child x) :
    g.Sooner r.chain x.chain := by
  obtain ⟨s, hs⟩ := chain_of_mem_children hchild
  obtain ⟨front, hx⟩ := hs ▸ chain_suffix_of_reaches h
  have hgoesOn : List.Lex g.Prefers (r.chain.reverse ++ [])
      (r.chain.reverse ++ s :: front.reverse) := List.Lex.append_left _ .nil _
  rw [← hx]
  simpa [Grammar.Sooner] using hgoesOn

end Remainders

/-- A search finds remainders in the order of their chains, if those that wait are in that order. -/
theorem explore_sooner (hg : g.WellKeyed) {budget : Nat} {r : Remainder}
    {waiting found : List Remainder} {exhausted : Bool}
    (h : explore g budget r waiting = .ok (found, exhausted))
    (hqueue : (r.children g ++ waiting).Pairwise g.GoesFirst) :
    found.Pairwise fun a b => g.Sooner a.chain b.chain := by
  induction budget generalizing r waiting found exhausted with
  | zero =>
    obtain ⟨rfl, -⟩ := Prod.mk.inj (Except.ok.inj h)
    exact List.Pairwise.nil
  | succ budget ih =>
    obtain ⟨children, hnext, h⟩ := bind_eq_ok_iff.mp h
    obtain ⟨-, rfl⟩ := Remainder.next_eq_ok_iff.mp hnext
    cases hsplit : r.children g ++ waiting with
    | nil =>
      rw [hsplit] at h
      obtain ⟨rfl, -⟩ := Prod.mk.inj (pure_eq_ok_iff.mp h)
      exact List.Pairwise.nil
    | cons first later =>
      rw [hsplit] at h hqueue
      obtain ⟨⟨more, ending⟩, hmore, h⟩ := bind_eq_ok_iff.mp h
      obtain ⟨rfl, -⟩ := Prod.mk.inj (pure_eq_ok_iff.mp h)
      obtain ⟨hfirst, hlater⟩ := List.pairwise_cons.mp hqueue
      have hchild : ∀ child ∈ first.children g, g.Reaches first child := fun child hchild =>
        Relation.ReflTransGen.single hchild
      have hqueue' : (first.children g ++ later).Pairwise g.GoesFirst := by
        rw [List.pairwise_append]
        exact ⟨children_goesFirst hg first, hlater, fun child hmem x hx =>
          (hfirst x hx).of_reaches (hchild child hmem) .refl⟩
      refine List.pairwise_cons.mpr ⟨fun x hx => ?_, ih hmore hqueue'⟩
      -- What is found after `first` comes from below it, or from something that waits behind it.
      obtain ⟨start, hstart, hreach⟩ := reaches_of_explore hmore x hx
      obtain hbelow | hwaits := List.mem_append.mp hstart
      · exact sooner_of_child hbelow hreach
      · exact ((hfirst start hwaits).of_reaches .refl hreach).sooner

theorem discover_findsFirst (hg : g.WellKeyed) {budget : Nat} {found : List Analysis}
    (h : discover g word budget = .ok found) : found.Pairwise g.FindsFirst := by
  unfold discover at h
  split_ifs at h
  · obtain rfl := Except.ok.inj h
    exact List.Pairwise.nil
  · obtain ⟨⟨visited, exhausted⟩, hexplore, h⟩ := bind_eq_ok_iff.mp h
    obtain rfl := pure_eq_ok_iff.mp h
    have hstart : ((Remainder.start word).children g ++ []).Pairwise g.GoesFirst := by
      rw [List.append_nil]
      exact children_goesFirst hg _
    have hne : ∀ r ∈ visited, r.chain ≠ [] := by
      intro r hr
      obtain ⟨child, hchild, hreach⟩ := reaches_of_explore hexplore r hr
      rw [List.append_nil] at hchild
      exact chain_ne_nil_of_reaches hchild hreach
    have hvisited : (visited.map (·.analysis word)).Pairwise g.FindsFirst := by
      refine List.pairwise_map.mpr ((explore_sooner hg hexplore hstart).imp_of_mem ?_)
      exact fun ha _ hsooner => ⟨hne _ ha, .inr hsooner⟩
    split_ifs
    · rw [List.pairwise_append]
      refine ⟨hvisited, List.pairwise_singleton _ _, fun a ha b hb => ?_⟩
      obtain ⟨r, hr, rfl⟩ := List.mem_map.mp ha
      obtain rfl := List.mem_singleton.mp hb
      exact ⟨hne r hr, .inl rfl⟩
    · exact hvisited

/-- Of any two analyses that a search finds, whether it ends or is stopped, the first one is that
with the chain that comes sooner from the end of the word inward. The word itself is the last. -/
theorem discovery_order (hg : g.Declared) {found : List Analysis}
    (h : (∃ budget, discover g word budget = .ok found) ∨ discoverAll g word = some (.ok found))
    {i j : Nat} (hi : i < found.length) (hj : j < found.length) :
    i < j ↔ g.FindsFirst found[i] found[j] := by
  have hdiscover : ∃ budget, discover g word budget = .ok found := by
    obtain h | h := h
    · exact h
    · obtain ⟨s, hleads, rfl, -⟩ := Search.leads_of_discoverAll h
      exact ⟨_, Search.discover_of_leads hleads⟩
  obtain ⟨budget, hfound⟩ := hdiscover
  have hpairwise := List.pairwise_iff_getElem.mp (discover_findsFirst hg.wellKeyed hfound)
  refine ⟨hpairwise i j hi hj, fun hfirst => ?_⟩
  obtain hless | rfl | hgreater := Nat.lt_trichotomy i j
  · exact hless
  · exact absurd hfirst hfirst.asymm
  · exact absurd hfirst (hpairwise j i hj hi hgreater).asymm

namespace Overlapping

def short (description : Text) : SuffixDefinition where
  suffix := ['a', 'r']
  description := description

def long : SuffixDefinition where
  suffix := ['r', 'a', 'r']
  description := ['z']

/-- A grammar with a suffix that two sets have, and one that ends in it. -/
def grammar : Grammar :=
  .ofDeclarations 1 [.set ['s'] [] [short ['x']], .set ['t'] [] [short ['y'], long]]

theorem grammar_declared : grammar.Declared := by
  have hread : declarationsOf? 2
      ("SUFFIX s \x7b ar: \"x\" \x7d ".toList ++ "SUFFIX t \x7b ar: \"y\", rar: \"z\" \x7d".toList) =
        some [.set ['s'] [] [short ['x']], .set ['t'] [] [short ['y'], long]] := by
    cbv
  exact Grammar.declared_of_declarationsOf? hread

def analysis (root : Text) (suffixes : List (Text × Text × Text)) : Analysis where
  root := root
  suffixes := suffixes.map fun s => ⟨s.2.1, s.2.2, s.1, s.2.1 ++ "::".toList ++ s.2.2⟩
  word := "kitarar".toList

/-- What is found first: the long suffix, then the short one of the first set, and what can be
stripped in front of that. -/
def found : List Analysis :=
  [analysis "kita".toList [(['t'], "rar".toList, ['z'])],
   analysis "kitar".toList [(['s'], "ar".toList, ['x'])],
   analysis "kit".toList [(['s'], "ar".toList, ['x']), (['s'], "ar".toList, ['x'])],
   analysis "kit".toList [(['t'], "ar".toList, ['y']), (['s'], "ar".toList, ['x'])],
   analysis "kitar".toList [(['t'], "ar".toList, ['y'])]]

theorem discover_eq : discover grammar "kitarar".toList 5 = .ok found := by
  have hfound : (discover grammar "kitarar".toList 5).toOption = some found := by cbv
  exact eq_ok_of_toOption hfound

end Overlapping

/-- Two suffixes whose outermost one is of the first set are found before the one suffix of the
second set. -/
theorem overlapping_discovery_order :
    Overlapping.grammar.Declared ∧
      discover Overlapping.grammar "kitarar".toList 5 = .ok Overlapping.found ∧
      Overlapping.grammar.FindsFirst
        (Overlapping.analysis "kit".toList [(['t'], "ar".toList, ['y']), (['s'], "ar".toList, ['x'])])
        (Overlapping.analysis "kitar".toList [(['t'], "ar".toList, ['y'])]) := by
  have hlength : Overlapping.found.length = 5 := rfl
  have hfirst := (discovery_order Overlapping.grammar_declared (.inl ⟨5, Overlapping.discover_eq⟩)
    (i := 3) (j := 4) (by omega) (by omega)).mp (by decide)
  exact ⟨Overlapping.grammar_declared, Overlapping.discover_eq, hfirst⟩

end Morphotactics
