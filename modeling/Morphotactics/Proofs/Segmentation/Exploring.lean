import Morphotactics.Proofs.Segmentation.Enumeration

/-! Soundness of searches with a limit and without one: whatever they find can be stripped. -/
namespace Morphotactics

variable {g : Grammar} {word : Text}

theorem mem_rank {a : Analysis} {analyses : List Analysis} : a ∈ rank analyses ↔ a ∈ analyses :=
  List.mem_mergeSort

theorem analyzeAll_eq_ok_iff {limit : Option Int} {ranked : List Analysis} :
    analyzeAll g limit word = .ok ranked ↔
      ∃ found, segmentations g limit word = .ok found ∧ ranked = rank found := by
  unfold analyzeAll
  rw [bind_eq_ok_iff]
  refine exists_congr fun found => and_congr_right fun _ => ?_
  rw [pure_eq_ok_iff, eq_comm]

/-- A search with a limit finds nothing but what stripping leads to. -/
theorem reaches_of_explore {budget : Nat} {r : Remainder} {waiting found : List Remainder}
    {exhausted : Bool} (h : explore g budget r waiting = .ok (found, exhausted)) :
    ∀ x ∈ found, ∃ first ∈ r.children g ++ waiting, g.Reaches first x := by
  induction budget generalizing r waiting found exhausted with
  | zero =>
    obtain ⟨rfl, -⟩ := Prod.mk.inj (Except.ok.inj h)
    simp
  | succ budget ih =>
    obtain ⟨children, hnext, h⟩ := bind_eq_ok_iff.mp h
    obtain ⟨-, rfl⟩ := Remainder.next_eq_ok_iff.mp hnext
    cases hqueue : r.children g ++ waiting with
    | nil =>
      rw [hqueue] at h
      obtain ⟨rfl, -⟩ := Prod.mk.inj (pure_eq_ok_iff.mp h)
      simp
    | cons first later =>
      rw [hqueue] at h
      obtain ⟨⟨more, ending⟩, hmore, h⟩ := bind_eq_ok_iff.mp h
      obtain ⟨rfl, -⟩ := Prod.mk.inj (pure_eq_ok_iff.mp h)
      refine List.forall_mem_cons.mpr ⟨⟨first, List.mem_cons_self, .refl⟩, fun x hx => ?_⟩
      obtain ⟨start, hstart, hreach⟩ := ih hmore x hx
      -- What is waiting for the next visit comes after `first`, or has been waiting before.
      obtain hchild | hlater := List.mem_append.mp hstart
      · exact ⟨first, List.mem_cons_self, reaches_iff.mpr (.inr ⟨start, hchild, hreach⟩)⟩
      · exact ⟨start, List.mem_cons_of_mem first hlater, hreach⟩

section Exhausted

variable {budget : Nat} {r : Remainder} {waiting found : List Remainder}

theorem length_of_explore (h : explore g budget r waiting = .ok (found, false)) :
    found.length = budget := by
  induction budget generalizing r waiting found with
  | zero =>
    obtain ⟨rfl, -⟩ := Prod.mk.inj (Except.ok.inj h)
    rfl
  | succ budget ih =>
    obtain ⟨children, -, h⟩ := bind_eq_ok_iff.mp h
    cases hqueue : children ++ waiting with
    | nil =>
      rw [hqueue] at h
      cases (Prod.mk.inj (pure_eq_ok_iff.mp h)).2
    | cons first later =>
      rw [hqueue] at h
      obtain ⟨⟨more, ending⟩, hmore, h⟩ := bind_eq_ok_iff.mp h
      obtain ⟨rfl, rfl⟩ := Prod.mk.inj (pure_eq_ok_iff.mp h)
      rw [List.length_cons, ih hmore]

theorem follows_append {rs later : List Remainder} (h : Follows g (rs ++ later) (.ok found)) :
    ∃ first rest, Follows g rs (.ok first) ∧ Follows g later (.ok rest) ∧
      found = first ++ rest := by
  induction rs generalizing found with
  | nil => exact ⟨[], found, .nil, h, rfl⟩
  | cons r rs ih =>
    cases h with
    | cons next below beside =>
      obtain ⟨first, rest, hfirst, hrest, rfl⟩ := ih beside
      exact ⟨_, rest, .cons next below hfirst, hrest, (List.append_assoc _ _ _).symm⟩

/-- A search that ends before its limit finds what following the remainders without one finds. -/
theorem follows_of_explore (h : explore g budget r waiting = .ok (found, true)) :
    ∃ children, r.next g = .ok children ∧ Follows g (children ++ waiting) (.ok found) := by
  induction budget generalizing r waiting found with
  | zero => cases (Prod.mk.inj (Except.ok.inj h)).2
  | succ budget ih =>
    obtain ⟨children, hnext, h⟩ := bind_eq_ok_iff.mp h
    refine ⟨children, hnext, ?_⟩
    cases hqueue : children ++ waiting with
    | nil =>
      rw [hqueue] at h
      obtain ⟨rfl, -⟩ := Prod.mk.inj (pure_eq_ok_iff.mp h)
      exact .nil
    | cons first later =>
      rw [hqueue] at h
      obtain ⟨⟨more, ending⟩, hmore, h⟩ := bind_eq_ok_iff.mp h
      obtain ⟨rfl, rfl⟩ := Prod.mk.inj (pure_eq_ok_iff.mp h)
      obtain ⟨below, hnext, hfollows⟩ := ih hmore
      obtain ⟨front, back, hfront, hback, rfl⟩ := follows_append hfollows
      exact .cons hnext hfront hback

/-- A limit that the search does not reach makes no difference. -/
theorem discoverAll_of_discover {all : List Analysis} (h : discover g word budget = .ok all)
    (hless : all.length < budget) : discoverAll g word = some (.ok all) := by
  unfold discover at h
  split_ifs at h with hshort
  · obtain rfl := Except.ok.inj h
    exact if_pos hshort
  · obtain ⟨⟨visited, exhausted⟩, hexplore, h⟩ := bind_eq_ok_iff.mp h
    obtain rfl := pure_eq_ok_iff.mp h
    cases exhausted with
    | false =>
      have hlength := length_of_explore hexplore
      simp [hlength] at hless
    | true =>
      obtain ⟨children, hnext, hfollows⟩ := follows_of_explore hexplore
      rw [List.append_nil] at hfollows
      refine (discoverAll_eq_ok_iff (Nat.le_of_not_lt hshort)).mpr
        ⟨children, visited, hnext, hfollows, ?_⟩
      by_cases hroom : (visited.map (·.analysis word)).length < budget
      · rw [decide_eq_true hroom]
        rfl
      · rw [decide_eq_false hroom] at hless
        exact absurd hless hroom

end Exhausted

/-- The analysis stands for a remainder that stripping leads to from the word. -/
def Grammar.Strips (g : Grammar) (word : Text) (a : Analysis) : Prop :=
  ∃ r, g.Reaches (.start word) r ∧ a = r.analysis word

theorem identity_strips : g.Strips word (.identity word) :=
  ⟨.start word, .refl, rfl⟩

theorem strips_of_children {r child : Remainder} (hchild : child ∈ (Remainder.start word).children g)
    (h : g.Reaches child r) : g.Strips word (r.analysis word) :=
  ⟨r, reaches_iff.mpr (.inr ⟨child, hchild, h⟩), rfl⟩

theorem strips_of_mem_discover {budget : Nat} {found : List Analysis}
    (h : discover g word budget = .ok found) : ∀ a ∈ found, g.Strips word a := by
  unfold discover at h
  split_ifs at h
  · obtain rfl := Except.ok.inj h
    exact List.forall_mem_nil _
  · obtain ⟨⟨visited, exhausted⟩, hexplore, h⟩ := bind_eq_ok_iff.mp h
    obtain rfl := pure_eq_ok_iff.mp h
    have hvisited : ∀ a ∈ visited.map (·.analysis word), g.Strips word a := by
      intro a ha
      obtain ⟨r, hr, rfl⟩ := List.mem_map.mp ha
      obtain ⟨child, hchild, hreach⟩ := reaches_of_explore hexplore r hr
      rw [List.append_nil] at hchild
      exact strips_of_children hchild hreach
    split_ifs
    · rw [List.forall_mem_append, List.forall_mem_singleton]
      exact ⟨hvisited, identity_strips⟩
    · exact hvisited

theorem strips_of_mem_discoverAll {found : List Analysis}
    (h : discoverAll g word = some (.ok found)) : ∀ a ∈ found, g.Strips word a := by
  by_cases hlong : 2 ≤ word.length
  · obtain ⟨children, visited, hnext, hfollows, rfl⟩ := (discoverAll_eq_ok_iff hlong).mp h
    obtain ⟨-, rfl⟩ := Remainder.next_eq_ok_iff.mp hnext
    intro a ha
    obtain ⟨r, hr, rfl⟩ | rfl := Analysis.mem_ofRemainders.mp ha
    · obtain ⟨child, hchild, hreach⟩ := (mem_found_iff hfollows).mp hr
      exact strips_of_children hchild hreach
    · exact identity_strips
  · have hshort : discoverAll g word = some (.ok []) := if_pos (Nat.lt_of_not_le hlong)
    obtain rfl := Except.ok.inj (Option.some.inj (hshort.symm.trans h))
    exact List.forall_mem_nil _

/-- Whatever the limit, each analysis that is found can be stripped from the word. -/
theorem strips_of_mem_segmentations {limit : Option Int} {found : List Analysis}
    (h : segmentations g limit word = .ok found) : ∀ a ∈ found, g.Strips word a := by
  unfold segmentations at h
  split at h
  · cases h
  · split at h
    · cases h
    · rename_i hdiscover
      obtain rfl := Except.ok.inj h
      exact strips_of_mem_discover hdiscover
  · split at h
    · cases h
    · cases h
    · rename_i hdiscover
      obtain rfl := Except.ok.inj h
      exact strips_of_mem_discoverAll hdiscover

/-- On a word that settles, a search without a limit finds each analysis that can be stripped. -/
theorem segmentations_complete (hs : g.Settles word) (hlong : 2 ≤ word.length) :
    ∃ found, segmentations g none word = .ok found ∧ ∀ a, g.Strips word a → a ∈ found := by
  obtain ⟨found, hfollows, hfound⟩ := segmentations_of_settles hlong hs
  refine ⟨_, hfound, fun a ha => Analysis.mem_ofRemainders.mpr ?_⟩
  obtain ⟨r, hreach, rfl⟩ := ha
  obtain rfl | ⟨child, hchild, hbelow⟩ := reaches_iff.mp hreach
  · exact .inr rfl
  · exact .inl ⟨r, (mem_found_iff hfollows).mpr ⟨child, hchild, hbelow⟩, rfl⟩

/-- An analysis that can be stripped has a chain with its root. -/
theorem Grammar.Strips.strippable {a : Analysis} (h : g.Strips word a) :
    ∃ chain root changed, g.Strippable word chain root changed ∧
      a = (Remainder.ofChain chain root changed).analysis word := by
  obtain ⟨r, hreach, rfl⟩ := h
  obtain ⟨chain, root, changed, hstrippable, rfl⟩ := strippable_of_reaches hreach
  exact ⟨chain, root, changed, hstrippable, rfl⟩

end Morphotactics
