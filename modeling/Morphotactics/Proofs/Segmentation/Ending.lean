import Mathlib
import Morphotactics.Proofs.Condition
import Morphotactics.Proofs.Grammar.Evaluation
import Morphotactics.Proofs.Segmentation.Settling

/-! Searches that never end: those that go down one chain of remainders for ever. -/
namespace Morphotactics

/-- The search goes down from a remainder to one that comes after it: it comes to an end below all
that come before that one, and meets no malformed pattern there. -/
def Grammar.Descends (g : Grammar) (r child : Remainder) : Prop :=
  ∃ before after, r.next g = .ok (before ++ child :: after) ∧ ∀ b ∈ before, g.Settles b.root

variable {g : Grammar}

/-- No chain of remainders that the search goes down is infinite below any of these. -/
def Grammar.Bounded (g : Grammar) : List Remainder → Prop
  | [] => True
  | r :: rest => Acc (flip g.Descends) r ∧ (g.Settles r.root → g.Bounded rest)

theorem acc_of_bounded {before after : List Remainder} {r : Remainder}
    (h : g.Bounded (before ++ r :: after)) (hbefore : ∀ b ∈ before, g.Settles b.root) :
    Acc (flip g.Descends) r := by
  induction before with
  | nil => exact h.1
  | cons b rest ih =>
    obtain ⟨hb, hrest⟩ := List.forall_mem_cons.mp hbefore
    exact ih (h.2 hb) hrest

theorem acc_of_next {r : Remainder} {children : List Remainder} (hnext : r.next g = .ok children)
    (h : g.Bounded children) : Acc (flip g.Descends) r := by
  refine Acc.intro r fun child hchild => ?_
  obtain ⟨before, after, hsplit, hbefore⟩ := hchild
  obtain rfl := Except.ok.inj (hnext.symm.trans hsplit)
  exact acc_of_bounded h hbefore

/-- A search that has an outcome goes down no infinite chain. -/
theorem bounded_of_follows {rs : List Remainder}
    {outcome : Except Pattern.Invalid (List Remainder)} (h : Follows g rs outcome) :
    g.Bounded rs := by
  -- A remainder that the search does not come past has no text that settles, so that nothing is
  -- asked of those after it.
  induction h with
  | nil => trivial
  | @fault r rest error next =>
    refine ⟨Acc.intro r fun child hchild => ?_, fun hs => ?_⟩
    · obtain ⟨before, after, hnext, -⟩ := hchild
      cases next.symm.trans hnext
    · cases next.symm.trans (next_of_settles hs).1
  | @faultBelow r rest children error next hbelow below =>
    refine ⟨acc_of_next next below, fun hs => ?_⟩
    obtain ⟨-, rfl⟩ := Remainder.next_eq_ok_iff.mp next
    obtain ⟨found, hfound⟩ := follows_children hs r rfl
    cases hbelow.unique hfound
  | faultBeside next _ _ below beside => exact ⟨acc_of_next next below, fun _ => beside⟩
  | cons next _ _ below beside => exact ⟨acc_of_next next below, fun _ => beside⟩

theorem follows_error_cons {r : Remainder} {rest : List Remainder} {error : Pattern.Invalid}
    (h : Follows g [r] (.error error)) : Follows g (r :: rest) (.error error) := by
  cases h with
  | fault next => exact .fault next
  | faultBelow next below => exact .faultBelow next below
  | faultBeside _ _ beside => cases beside

theorem follows_cons {r : Remainder} {rest found : List Remainder}
    {outcome : Except Pattern.Invalid (List Remainder)} (h : Follows g [r] (.ok found))
    (hrest : Follows g rest outcome) : ∃ all, Follows g (r :: rest) all := by
  cases h with
  | cons next below _ =>
    cases outcome with
    | error error => exact ⟨_, .faultBeside next below hrest⟩
    | ok more => exact ⟨_, .cons next below hrest⟩

/-- Remainders have an outcome if each of them has one that those before it let the search reach. -/
theorem follows_of_each {rs : List Remainder}
    (h : ∀ before r after, rs = before ++ r :: after → (∀ b ∈ before, g.Settles b.root) →
      ∃ outcome, Follows g [r] outcome) : ∃ outcome, Follows g rs outcome := by
  induction rs with
  | nil => exact ⟨_, .nil⟩
  | cons r rest ih =>
    obtain ⟨outcome, hr⟩ := h [] r rest rfl (List.forall_mem_nil _)
    cases outcome with
    | error error => exact ⟨_, follows_error_cons hr⟩
    | ok found =>
      have hs : g.Settles r.root := settles_of_follows hr r List.mem_cons_self
      obtain ⟨_, hrest⟩ := ih fun before r' after hsplit hbefore =>
        h (r :: before) r' after (congrArg _ hsplit) (List.forall_mem_cons.mpr ⟨hs, hbefore⟩)
      exact follows_cons hr hrest

theorem follows_above {r : Remainder} {children : List Remainder}
    {outcome : Except Pattern.Invalid (List Remainder)} (hnext : r.next g = .ok children)
    (h : Follows g children outcome) : ∃ outcome, Follows g [r] outcome := by
  cases outcome with
  | error error => exact ⟨_, .faultBelow hnext h⟩
  | ok found => exact ⟨_, .cons hnext h .nil⟩

theorem follows_below {r : Remainder} {children : List Remainder}
    {outcome : Except Pattern.Invalid (List Remainder)} (hnext : r.next g = .ok children)
    (h : Follows g [r] outcome) : ∃ outcome, Follows g children outcome := by
  cases h with
  | fault next => cases next.symm.trans hnext
  | faultBelow next below | faultBeside next below | cons next below =>
    cases next.symm.trans hnext
    exact ⟨_, below⟩

theorem follows_of_acc {r : Remainder} (h : Acc (flip g.Descends) r) :
    ∃ outcome, Follows g [r] outcome := by
  induction h with
  | intro r _ ih =>
    cases hnext : r.next g with
    | error error => exact ⟨_, .fault hnext⟩
    | ok children =>
      obtain ⟨outcome, hchildren⟩ := follows_of_each fun before child after hsplit hbefore =>
        ih child ⟨before, after, hsplit ▸ hnext, hbefore⟩
      exact follows_above hnext hchildren

/-- The search ends if it goes down no infinite chain, and only then. -/
theorem follows_iff_acc {r : Remainder} :
    (∃ outcome, Follows g [r] outcome) ↔ Acc (flip g.Descends) r :=
  ⟨fun ⟨_, h⟩ => (bounded_of_follows h).1, follows_of_acc⟩

section Unlimited

variable {word : Text}

theorem segmentations_endless_iff :
    segmentations g none word = .error .endless ↔ ¬ ∃ outcome, Follows g [.start word] outcome := by
  by_cases hlong : 2 ≤ word.length
  · cases hnext : (Remainder.start word).next g with
    | error error =>
      have hfault := discoverAll_of_fault hlong hnext
      have hends : ∃ outcome, Follows g [.start word] outcome := ⟨_, .fault hnext⟩
      simp [segmentations, budgetOf, hfault, hends]
    | ok children =>
      have hsame : (∃ outcome, Follows g [.start word] outcome) ↔
          ∃ outcome, Follows g children outcome := by
        constructor
        · rintro ⟨_, h⟩
          exact follows_below hnext h
        · rintro ⟨_, h⟩
          exact follows_above hnext h
      have hall := discoverAll_of_long hlong hnext
      rw [hsame, ← follow_eq_none_iff]
      cases hfollow : g.follow children with
      | none => simp [segmentations, budgetOf, hall, hfollow]
      | some outcome => cases outcome <;> simp [segmentations, budgetOf, hall, hfollow, Except.map]
  · have hshort := Nat.lt_of_not_le hlong
    have hends : ∃ outcome, Follows g [.start word] outcome := by
      have hs : g.Settles (Remainder.start word).root :=
        settles_of_short (Nat.le_trans (Nat.le_of_lt hshort) (by decide))
      obtain ⟨found, hfound⟩ := follows_ok_iff.mpr (List.forall_mem_singleton.mpr hs)
      exact ⟨_, hfound⟩
    simp [segmentations_of_short hshort, hends]

theorem analyzeAll_endless_iff_segmentations :
    analyzeAll g none word = .error .endless ↔ segmentations g none word = .error .endless := by
  unfold analyzeAll
  cases segmentations g none word <;> simp [bind, Except.bind, pure, Except.pure]

/-- The search is endless if it goes down a chain of remainders for ever, and only then. -/
theorem analyzeAll_endless_iff_descends :
    analyzeAll g none word = .error .endless ↔
      ∃ path : ℕ → Remainder, path 0 = .start word ∧ ∀ n, g.Descends (path n) (path (n + 1)) := by
  rw [analyzeAll_endless_iff_segmentations, segmentations_endless_iff, follows_iff_acc,
    not_acc_iff_exists_descending_chain]
  rfl

end Unlimited

section Lengths

theorem strips_of_descends {r child : Remainder} (h : g.Descends r child) :
    ∃ owned ∈ g.suffixes, owned.2.suffix ≠ [] ∧ ∃ stem, owned.2.Strips r.root stem child.root := by
  obtain ⟨before, after, hnext, -⟩ := h
  have hmem : child ∈ r.children g := by
    rw [← (Remainder.next_eq_ok_iff.mp hnext).2]
    exact List.mem_append_right before List.mem_cons_self
  obtain ⟨-, owned, howned, stem, root, hstrip, rfl⟩ := Remainder.mem_children.mp hmem
  obtain ⟨hne, hstrips⟩ := SuffixDefinition.strips_of_strip hstrip
  exact ⟨owned, howned, hne, stem, hstrips⟩

/-- A suffix is stripped that puts a text in its stem which is at least as long as itself. -/
def Grammar.Regrows (g : Grammar) (r child : Remainder) : Prop :=
  ∃ owned ∈ g.suffixes, ∃ stem, owned.2.Strips r.root stem child.root ∧
    owned.2.condition.replaces ∧ owned.2.suffix.length ≤ owned.2.condition.replacement.length

theorem length_lt_of_not_regrows {r child : Remainder} (h : g.Descends r child)
    (hr : ¬ g.Regrows r child) : child.root.length < r.root.length := by
  obtain ⟨owned, howned, hne, stem, hstrips⟩ := strips_of_descends h
  have hsuffix := List.length_pos_iff.mpr hne
  have htext := congrArg List.length hstrips.spelled
  rw [List.length_append] at htext
  by_cases hreplaces : owned.2.condition.replaces = true
  · have hshort : ¬ owned.2.suffix.length ≤ owned.2.condition.replacement.length := fun hlong =>
      hr ⟨owned, howned, stem, hstrips, hreplaces, hlong⟩
    have hchange := Condition.apply_length_le hstrips.applies
    omega
  · have hchange := Condition.apply_length_le_of_not_replaces (Bool.eq_false_iff.mpr hreplaces)
      hstrips.applies
    omega

/-- A chain that goes down for ever regrows again and again. -/
theorem regrows_of_descends {path : ℕ → Remainder}
    (h : ∀ n, g.Descends (path n) (path (n + 1))) (n : ℕ) :
    ∃ m, n ≤ m ∧ g.Regrows (path m) (path (m + 1)) := by
  by_contra hnone
  -- From `n` on every step makes the root shorter.
  have hshrinks : ∀ k, (path (n + k)).root.length + k ≤ (path n).root.length := by
    intro k
    induction k with
    | zero => exact Nat.le_refl _
    | succ k ih =>
      have hstep := length_lt_of_not_regrows (h (n + k)) fun hr =>
        hnone ⟨n + k, Nat.le_add_right n k, hr⟩
      show (path (n + k + 1)).root.length + (k + 1) ≤ (path n).root.length
      omega
  have := hshrinks ((path n).root.length + 1)
  omega

end Lengths

/-- The search for all segmentations of a word is endless exactly if it goes down a chain of
remainders for ever. Again and again a suffix is then stripped from the chain that puts a text in
its stem which is at least as long as itself. -/
theorem analyzeAll_endless_iff (g : Grammar) (word : Text) :
    analyzeAll g none word = .error .endless ↔
      ∃ path : ℕ → Remainder, path 0 = .start word ∧
        (∀ n, g.Descends (path n) (path (n + 1))) ∧
          ∀ n, ∃ m, n ≤ m ∧ g.Regrows (path m) (path (m + 1)) := by
  rw [analyzeAll_endless_iff_descends]
  constructor
  · rintro ⟨path, hstart, hpath⟩
    exact ⟨path, hstart, hpath, regrows_of_descends hpath⟩
  · rintro ⟨path, hstart, hpath, -⟩
    exact ⟨path, hstart, hpath⟩

/-- No search is endless if no suffix puts in a text as long as itself. -/
theorem analyzeAll_ends_of_short_replacements
    (h : ∀ owned ∈ g.suffixes, owned.2.condition.replaces →
      owned.2.condition.replacement.length < owned.2.suffix.length) (word : Text) :
    analyzeAll g none word ≠ .error .endless := by
  intro hendless
  obtain ⟨path, -, hpath⟩ := analyzeAll_endless_iff_descends.mp hendless
  obtain ⟨m, -, owned, howned, -, -, hreplaces, hlong⟩ := regrows_of_descends hpath 0
  exact Nat.not_lt.mpr hlong (h owned howned hreplaces)

namespace Restoring

/-- A suffix whose stem gets the suffix back when it is stripped. -/
def echo : SuffixDefinition where
  suffix := ['b']
  description := ['x']
  condition := { kind := .endsWith, pattern := ['a'], replacement := ['a', 'b'] }

def ending : SuffixSet where
  name := ['s']
  description := []
  suffixes := .ofList [(echo.suffix, echo)]

def grammar : Grammar :=
  .ofDeclarations 1 [.set ['s'] [] [echo]]

theorem grammar_declared : grammar.Declared := by
  have hread : declarationsOf? 1
      "SUFFIX s \x7b b: \"x\" WHEN ENDSWITH /a/ REPLACE \"ab\" \x7d".toList =
        some [.set ['s'] [] [echo]] := by
    cbv
  exact Grammar.declared_of_declarationsOf? hread

theorem strip_echo : echo.strip "xxab".toList = .ok (some ("xxa".toList, "xxab".toList)) := by
  cbv

/-- From a remainder with the root `xxab` the search goes on to another one with the same root. -/
theorem descends {r : Remainder} (h : r.root = "xxab".toList) :
    grammar.Descends r (r.extend (ending, echo) "xxa".toList "xxab".toList) := by
  have hsuffixes : grammar.suffixes = [(ending, echo)] := rfl
  have hchild : r.child? (ending, echo) =
      some (r.extend (ending, echo) "xxa".toList "xxab".toList) := by
    refine Remainder.child?_eq_some.mpr ⟨_, _, ?_, rfl⟩
    rw [h]
    exact strip_echo
  refine ⟨[], [], Remainder.next_eq_ok_iff.mpr ⟨fun _ => ?_, ?_⟩, List.forall_mem_nil _⟩
  · rw [hsuffixes, List.forall_mem_singleton, h]
    exact ⟨_, strip_echo⟩
  · have hlong : ¬ r.root.length ≤ 3 := by simp [h]
    unfold Remainder.children
    rw [if_neg hlong, hsuffixes, List.filterMap_cons_some hchild]
    simp

/-- What is left of `xxab` when the suffix has been stripped a number of times. -/
def stripped : ℕ → Remainder
  | 0 => .start "xxab".toList
  | n + 1 => (stripped n).extend (ending, echo) "xxa".toList "xxab".toList

theorem stripped_root (n : ℕ) : (stripped n).root = "xxab".toList := by
  cases n <;> rfl

end Restoring

/-- The least root does not bound the search: on `xxab` it never ends. -/
theorem restoring_endless :
    Restoring.grammar.Declared ∧
      analyzeAll Restoring.grammar none "xxab".toList = .error .endless :=
  ⟨Restoring.grammar_declared, analyzeAll_endless_iff_descends.mpr
    ⟨Restoring.stripped, rfl, fun n => Restoring.descends (Restoring.stripped_root n)⟩⟩

end Morphotactics
