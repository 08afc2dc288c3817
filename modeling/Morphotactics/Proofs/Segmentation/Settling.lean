import Morphotactics.Segmentation.Limit
import Morphotactics.Proofs.Segmentation.Following

/-! Words on which the search ends and comes upon no malformed pattern, and what it then gives. -/
namespace Morphotactics

/-- The search below a text ends and comes upon no malformed pattern. -/
inductive Grammar.Settles (g : Grammar) : Text → Prop
  | intro {text : Text}
      (sound : 4 ≤ text.length → ∀ owned ∈ g.suffixes, ∃ result, owned.2.strip text = .ok result)
      (below : 4 ≤ text.length → ∀ owned ∈ g.suffixes, ∀ stem root,
        owned.2.strip text = .ok (some (stem, root)) → g.Settles root) : g.Settles text

variable {g : Grammar}

theorem settles_of_short {text : Text} (h : text.length ≤ 3) : g.Settles text := by
  constructor <;> intro hlong <;> omega

/-- A text settles if trying each suffix on it gives nothing, or a root that settles. -/
theorem settles_of_strips {text : Text}
    (h : ∀ owned ∈ g.suffixes, owned.2.strip text = .ok none ∨
      ∃ stem root, owned.2.strip text = .ok (some (stem, root)) ∧ g.Settles root) :
    g.Settles text := by
  constructor
  · intro _ owned howned
    obtain hnone | ⟨stem, root, hstrip, -⟩ := h owned howned
    · exact ⟨none, hnone⟩
    · exact ⟨_, hstrip⟩
  · intro _ owned howned stem root hstrip
    obtain hnone | ⟨stem', root', hstrip', hsettles⟩ := h owned howned
    · cases hnone.symm.trans hstrip
    · cases hstrip'.symm.trans hstrip
      exact hsettles

theorem next_of_settles {r : Remainder} (h : g.Settles r.root) :
    r.next g = .ok (r.children g) ∧ ∀ child ∈ r.children g, g.Settles child.root := by
  obtain ⟨sound, below⟩ := h
  refine ⟨Remainder.next_eq_ok_iff.mpr ⟨sound, rfl⟩, fun child hc => ?_⟩
  obtain ⟨hlong, owned, howned, stem, root, hstrip, rfl⟩ := Remainder.mem_children.mp hc
  exact below hlong owned howned stem root hstrip

theorem settles_of_next {r : Remainder} {children : List Remainder}
    (hnext : r.next g = .ok children) (h : ∀ child ∈ children, g.Settles child.root) :
    g.Settles r.root := by
  obtain ⟨sound, rfl⟩ := Remainder.next_eq_ok_iff.mp hnext
  refine ⟨sound, fun hlong owned howned stem root hstrip => ?_⟩
  exact h (r.extend owned stem root)
    (Remainder.mem_children.mpr ⟨hlong, owned, howned, stem, root, hstrip, rfl⟩)

theorem settles_of_follows {rs found : List Remainder} (h : Follows g rs (.ok found)) :
    ∀ r ∈ rs, g.Settles r.root := by
  generalize ho : (Except.ok found : Except Pattern.Invalid (List Remainder)) = outcome at h
  induction h generalizing found with
  | nil => simp
  | fault | faultBelow | faultBeside => cases ho
  | cons next _ _ below beside =>
    exact List.forall_mem_cons.mpr ⟨settles_of_next next (below rfl), beside rfl⟩

private theorem follows_of_forall {rs : List Remainder}
    (h : ∀ r ∈ rs, g.Settles r.root ∧ ∃ found, Follows g (r.children g) (.ok found)) :
    ∃ found, Follows g rs (.ok found) := by
  induction rs with
  | nil => exact ⟨[], .nil⟩
  | cons r rest ih =>
    obtain ⟨⟨hs, found, hfound⟩, hrest⟩ := List.forall_mem_cons.mp h
    obtain ⟨more, hmore⟩ := ih hrest
    exact ⟨_, .cons (next_of_settles hs).1 hfound hmore⟩

theorem follows_children {text : Text} (h : g.Settles text) :
    ∀ r : Remainder, r.root = text → ∃ found, Follows g (r.children g) (.ok found) := by
  induction h with
  | intro sound below ih =>
    rintro r rfl
    refine follows_of_forall fun child hc => ?_
    obtain ⟨hlong, owned, howned, stem, root, hstrip, rfl⟩ := Remainder.mem_children.mp hc
    exact ⟨below hlong owned howned stem root hstrip,
      ih hlong owned howned stem root hstrip _ rfl⟩

/-- Remainders settle if and only if following them ends and finds something. -/
theorem follows_ok_iff {rs : List Remainder} :
    (∃ found, Follows g rs (.ok found)) ↔ ∀ r ∈ rs, g.Settles r.root :=
  ⟨fun ⟨_, h⟩ => settles_of_follows h,
    fun h => follows_of_forall fun r hr => ⟨h r hr, follows_children (h r hr) r rfl⟩⟩

section Unlimited

variable {word : Text}

theorem discoverAll_of_fault (h : 2 ≤ word.length) {error : Pattern.Invalid}
    (hnext : (Remainder.start word).next g = .error error) :
    discoverAll g word = some (.error error) := by
  have hlong : ¬ word.length < minRootLength := Nat.not_lt.mpr h
  unfold discoverAll
  rw [if_neg hlong, hnext]

theorem discoverAll_of_long (h : 2 ≤ word.length) {children : List Remainder}
    (hnext : (Remainder.start word).next g = .ok children) :
    discoverAll g word =
      (g.follow children).map fun outcome => outcome.map (Analysis.ofRemainders word) := by
  have hlong : ¬ word.length < minRootLength := Nat.not_lt.mpr h
  unfold discoverAll
  rw [if_neg hlong, hnext]
  dsimp only
  cases g.follow children with
  | none => rfl
  | some outcome => cases outcome <;> rfl

/-- A search without a limit that ends gives what following the first remainders finds. -/
theorem discoverAll_eq_ok_iff (h : 2 ≤ word.length) {all : List Analysis} :
    discoverAll g word = some (.ok all) ↔
      ∃ children found, (Remainder.start word).next g = .ok children ∧
        Follows g children (.ok found) ∧ all = Analysis.ofRemainders word found := by
  cases hnext : (Remainder.start word).next g with
  | error error => simp [discoverAll_of_fault h hnext]
  | ok children =>
    rw [discoverAll_of_long h hnext, Option.map_eq_some_iff]
    constructor
    · rintro ⟨outcome, hfollow, hall⟩
      cases outcome with
      | error error => cases hall
      | ok found =>
        exact ⟨children, found, rfl, follows_of_follow hfollow, (Except.ok.inj hall).symm⟩
    · rintro ⟨_, found, hchildren, hfollows, rfl⟩
      obtain rfl := Except.ok.inj hchildren
      exact ⟨_, follow_of_follows hfollows, rfl⟩

theorem segmentations_of_short (h : word.length < 2) : segmentations g none word = .ok [] := by
  have hshort : discoverAll g word = some (.ok []) := if_pos h
  simp only [segmentations, budgetOf, hshort]

/-- A word that settles has all its segmentations, the word itself last. -/
theorem segmentations_of_settles (h : 2 ≤ word.length) (hs : g.Settles word) :
    ∃ found, Follows g ((Remainder.start word).children g) (.ok found) ∧
      segmentations g none word = .ok (Analysis.ofRemainders word found) := by
  obtain ⟨found, hfound⟩ := follows_children hs (.start word) rfl
  have hnext := (next_of_settles (r := .start word) hs).1
  refine ⟨found, hfound, ?_⟩
  simp only [segmentations, budgetOf, discoverAll_of_long h hnext, follow_of_follows hfound]
  rfl

/-- The words that settle are those for which the search ends with a list of segmentations. -/
theorem exists_segmentations_iff_settles :
    (∃ found, segmentations g none word = .ok found) ↔ g.Settles word := by
  by_cases hlong : 2 ≤ word.length
  · constructor
    · rintro ⟨found, h⟩
      cases hnext : (Remainder.start word).next g with
      | error error => simp [segmentations, budgetOf, discoverAll_of_fault hlong hnext] at h
      | ok children =>
        have hall := discoverAll_of_long hlong hnext
        cases hfollow : g.follow children with
        | none => simp [segmentations, budgetOf, hall, hfollow] at h
        | some outcome =>
          cases outcome with
          | error error => simp [segmentations, budgetOf, hall, hfollow, Except.map] at h
          | ok below =>
            have hbelow := settles_of_follows (follows_of_follow hfollow)
            exact settles_of_next (r := .start word) hnext hbelow
    · intro hs
      obtain ⟨found, -, hfound⟩ := segmentations_of_settles hlong hs
      exact ⟨_, hfound⟩
  · have hshort := Nat.lt_of_not_le hlong
    have hs : g.Settles word := settles_of_short (by omega)
    have hfound := segmentations_of_short (g := g) hshort
    exact ⟨fun _ => hs, fun _ => ⟨_, hfound⟩⟩

end Unlimited

end Morphotactics
