import Mathlib
import Morphotactics.Proofs.Grammar.Sound
import Morphotactics.Proofs.Segmentation.Ending
import Morphotactics.Proofs.Segmentation.Exploring
import Morphotactics.Proofs.Segmentation.Refusing

/-! The search as it runs, call by call: what it has found when it is stopped, and how many calls it
has made until then. -/
namespace Morphotactics

inductive Search.Task where
  /-- A call for a remainder. -/
  | visit (r : Remainder)
  /-- The rest of a call that has given its remainder. -/
  | strip (r : Remainder)
  /-- The word itself is given when all calls are done. -/
  | whole

/-- A search on its way. -/
structure Search where
  calls : Nat
  found : List Analysis
  tasks : List Search.Task

namespace Search

def start (word : Text) : Search where
  calls := 0
  found := []
  tasks := if word.length < minRootLength then [] else [.visit (.start word), .whole]

/-- One step of a search. A call gives nothing for a remainder that is too short for a root, and
nothing for one without suffixes. There is no step where a pattern is malformed. -/
inductive Step (g : Grammar) (word : Text) : Search → Search → Prop
  | giveUp {calls : Nat} {found : List Analysis} {r : Remainder} {tasks : List Task}
      (short : r.root.length < minRootLength) :
      Step g word ⟨calls, found, .visit r :: tasks⟩ ⟨calls + 1, found, tasks⟩
  | enter {calls : Nat} {found : List Analysis} {r : Remainder} {tasks : List Task}
      (long : ¬ r.root.length < minRootLength) (bare : r.chain = []) :
      Step g word ⟨calls, found, .visit r :: tasks⟩ ⟨calls + 1, found, .strip r :: tasks⟩
  | give {calls : Nat} {found : List Analysis} {r : Remainder} {tasks : List Task}
      (long : ¬ r.root.length < minRootLength) (stripped : r.chain ≠ []) :
      Step g word ⟨calls, found, .visit r :: tasks⟩
        ⟨calls + 1, found ++ [r.analysis word], .strip r :: tasks⟩
  | strip {calls : Nat} {found : List Analysis} {r : Remainder} {children : List Remainder}
      {tasks : List Task} (next : r.next g = .ok children) :
      Step g word ⟨calls, found, .strip r :: tasks⟩ ⟨calls, found, children.map .visit ++ tasks⟩
  | whole {calls : Nat} {found : List Analysis} {tasks : List Task} :
      Step g word ⟨calls, found, .whole :: tasks⟩ ⟨calls, found ++ [.identity word], tasks⟩

/-- One state of a search comes to be another. -/
def Leads (g : Grammar) (word : Text) : Search → Search → Prop :=
  Relation.ReflTransGen (Step g word)

variable {g : Grammar} {word : Text} {s t u : Search}

theorem step_unique (ht : Step g word s t) (hu : Step g word s u) : t = u := by
  cases ht with
  | giveUp short =>
    cases hu with
    | giveUp => rfl
    | enter long | give long => exact absurd short long
  | enter long bare =>
    cases hu with
    | giveUp short => exact absurd short long
    | enter => rfl
    | give _ stripped => exact absurd bare stripped
  | give long stripped =>
    cases hu with
    | giveUp short => exact absurd short long
    | enter _ bare => exact absurd bare stripped
    | give => rfl
  | strip next =>
    cases hu with
    | strip next' =>
      obtain rfl := Except.ok.inj (next.symm.trans next')
      rfl
  | whole =>
    cases hu
    rfl

theorem leads_or_leads (ht : Leads g word s t) (hu : Leads g word s u) :
    Leads g word t u ∨ Leads g word u t :=
  Relation.ReflTransGen.total_of_right_unique (fun _ _ _ => step_unique) ht hu

theorem found_prefix_of_leads (h : Leads g word s t) : s.found <+: t.found := by
  induction h with
  | refl => exact List.prefix_rfl
  | tail _ hstep ih =>
    cases hstep with
    | giveUp | enter | strip => exact ih
    | give | whole => exact ih.trans (List.prefix_append _ _)

theorem eq_of_leads_of_done (hs : s.tasks = []) (h : Leads g word s t) : s = t := by
  obtain rfl | ⟨_, hstep, -⟩ := Relation.ReflTransGen.cases_head h
  · rfl
  · cases hstep <;> cases hs

theorem eq_of_leads_of_fault {r : Remainder} {tasks : List Task} {error : Pattern.Invalid}
    (hs : s.tasks = .strip r :: tasks) (hfault : r.next g = .error error) (h : Leads g word s t) :
    s = t := by
  obtain rfl | ⟨_, hstep, -⟩ := Relation.ReflTransGen.cases_head h
  · rfl
  · cases hstep <;> cases hs
    rename_i next
    cases hfault.symm.trans next

end Search

/-- Some suffix has been stripped, and what is left is long enough for a root. -/
structure Remainder.Stripped (r : Remainder) : Prop where
  long : minRootLength ≤ r.root.length
  chain_ne_nil : r.chain ≠ []

variable {g : Grammar} {word : Text}

theorem stripped_of_next {r : Remainder} {children : List Remainder}
    (hnext : r.next g = .ok children) : ∀ child ∈ children, child.Stripped := by
  obtain ⟨-, rfl⟩ := Remainder.next_eq_ok_iff.mp hnext
  intro child hchild
  obtain ⟨-, owned, -, stem, root, hstrip, rfl⟩ := Remainder.mem_children.mp hchild
  exact ⟨(SuffixDefinition.strips_of_strip hstrip).2.root_long, List.cons_ne_nil _ _⟩

namespace Search

section Calls

variable {s t : Search}

/-- All calls that are left to make give something. -/
def Productive (s : Search) : Prop :=
  ∀ r, .visit r ∈ s.tasks → r.Stripped

/-- A call is only made where it gives something, and a step makes one call at most. -/
theorem productive_step (hs : s.Productive) (h : Step g word s t) :
    t.Productive ∧ t.calls + s.found.length ≤ s.calls + t.found.length := by
  cases h with
  | @giveUp _ _ r _ short =>
    have hlong := (hs r List.mem_cons_self).long
    exact absurd short (Nat.not_lt.mpr hlong)
  | @enter _ _ r _ _ bare => exact absurd bare (hs r List.mem_cons_self).chain_ne_nil
  | give =>
    refine ⟨fun r hr => hs r (List.mem_cons_of_mem _ ?_), by simp; omega⟩
    exact (List.mem_cons.mp hr).resolve_left nofun
  | strip next =>
    refine ⟨fun r hr => ?_, Nat.le_refl _⟩
    obtain hchild | hlater := List.mem_append.mp hr
    · obtain ⟨child, hmem, he⟩ := List.mem_map.mp hchild
      obtain rfl := Task.visit.inj he
      exact stripped_of_next next child hmem
    · exact hs r (List.mem_cons_of_mem _ hlater)
  | whole => exact ⟨fun r hr => hs r (List.mem_cons_of_mem _ hr), by simp⟩

theorem productive_leads (hs : s.Productive) (h : Leads g word s t) :
    t.Productive ∧ t.calls + s.found.length ≤ s.calls + t.found.length := by
  induction h with
  | refl => exact ⟨hs, Nat.le_refl _⟩
  | tail _ hstep ih =>
    obtain ⟨hproductive, hcalls⟩ := ih
    obtain ⟨hproductive', hcalls'⟩ := productive_step hproductive hstep
    exact ⟨hproductive', by omega⟩

/-- All calls but the first give something. -/
theorem calls_le (h : Leads g word (start word) s) : s.calls ≤ s.found.length + 1 := by
  obtain rfl | ⟨first, hstep, hleads⟩ := Relation.ReflTransGen.cases_head h
  · exact Nat.zero_le _
  · have hfirst : first = ⟨1, [], [.strip (.start word), .whole]⟩ := by
      unfold start at hstep
      split_ifs at hstep with hshort
      · cases hstep
      · exact step_unique hstep (.enter hshort rfl)
    subst hfirst
    have hproductive : Productive ⟨1, [], [.strip (.start word), .whole]⟩ := by
      intro r hr
      simp at hr
    have hcalls := (productive_leads hproductive hleads).2
    simp only [List.length_nil, Nat.add_zero] at hcalls
    omega

end Calls

section Exploring

/-- Suffixes are to be stripped from a remainder, and calls are made for others after that. -/
def below (calls : Nat) (found : List Analysis) (r : Remainder) (waiting : List Remainder) :
    Search where
  calls := calls
  found := found
  tasks := .strip r :: (waiting.map .visit ++ [.whole])

theorem leads_below (hlong : ¬ word.length < minRootLength) :
    Leads g word (start word) (below 1 [] (.start word) []) := by
  unfold start
  rw [if_neg hlong]
  exact .single (.enter hlong rfl)

variable {calls budget : Nat} {found : List Analysis} {r : Remainder}
  {waiting visited : List Remainder}

theorem leads_of_give {tasks : List Task} (hr : r.Stripped) :
    Leads g word ⟨calls, found, .visit r :: tasks⟩
      ⟨calls + 1, found ++ [r.analysis word], .strip r :: tasks⟩ :=
  .single (.give (Nat.not_lt.mpr hr.long) hr.chain_ne_nil)

/-- Stripping leads to the next call. -/
theorem below_leads_below {children later : List Remainder} {first : Remainder}
    (hnext : r.next g = .ok children) (hqueue : children ++ waiting = first :: later)
    (hfirst : first.Stripped) :
    Leads g word (below calls found r waiting)
      (below (calls + 1) (found ++ [first.analysis word]) first later) := by
  have hstrip : Step g word (below calls found r waiting)
      ⟨calls, found, .visit first :: (later.map .visit ++ [.whole])⟩ := by
    have hstep : Step g word (below calls found r waiting) _ := .strip hnext
    rwa [← List.append_assoc, ← List.map_append, hqueue] at hstep
  exact .head hstrip (leads_of_give hfirst)

theorem stripped_of_queue {children : List Remainder} (hnext : r.next g = .ok children)
    (hwaiting : ∀ x ∈ waiting, x.Stripped) : ∀ x ∈ children ++ waiting, x.Stripped :=
  List.forall_mem_append.mpr ⟨stripped_of_next hnext, hwaiting⟩

/-- A search with a limit finds what the search has found when it comes to as much, or when only the
word itself is left. -/
theorem leads_of_explore {exhausted : Bool}
    (h : explore g budget r waiting = .ok (visited, exhausted))
    (hwaiting : ∀ x ∈ waiting, x.Stripped) (calls : Nat) (found : List Analysis) :
    ∃ s, Leads g word (below calls found r waiting) s ∧
      s.found = found ++ visited.map (·.analysis word) ∧
      if exhausted then visited.length < budget ∧ s.tasks = [.whole]
      else visited.length = budget := by
  induction budget generalizing calls found r waiting visited with
  | zero =>
    obtain ⟨rfl, rfl⟩ := Prod.mk.inj (Except.ok.inj h)
    exact ⟨_, .refl, by simp [below], rfl⟩
  | succ budget ih =>
    obtain ⟨children, hnext, h⟩ := bind_eq_ok_iff.mp h
    have hstripped := stripped_of_queue hnext hwaiting
    cases hqueue : children ++ waiting with
    | nil =>
      rw [hqueue] at h
      obtain ⟨rfl, rfl⟩ := Prod.mk.inj (pure_eq_ok_iff.mp h)
      obtain ⟨rfl, rfl⟩ := List.append_eq_nil_iff.mp hqueue
      refine ⟨_, .single (.strip hnext), by simp, ?_⟩
      rw [if_pos rfl]
      exact ⟨Nat.succ_pos budget, rfl⟩
    | cons first later =>
      rw [hqueue] at h hstripped
      obtain ⟨⟨more, ending⟩, hmore, h⟩ := bind_eq_ok_iff.mp h
      obtain ⟨rfl, rfl⟩ := Prod.mk.inj (pure_eq_ok_iff.mp h)
      obtain ⟨hfirst, hlater⟩ := List.forall_mem_cons.mp hstripped
      obtain ⟨s, hleads, hfound, hend⟩ := ih hmore hlater (calls + 1) (found ++ [first.analysis word])
      refine ⟨s, .trans (below_leads_below hnext hqueue hfirst) hleads, by simp [hfound], ?_⟩
      simpa using hend

/-- A search with a limit meets a malformed pattern only where the search does, and before it has
found as much as it is to find. -/
theorem leads_of_explore_error {error : Pattern.Invalid}
    (h : explore g budget r waiting = .error error) (hwaiting : ∀ x ∈ waiting, x.Stripped)
    (calls : Nat) (found : List Analysis) :
    ∃ s x tasks, Leads g word (below calls found r waiting) s ∧ s.tasks = .strip x :: tasks ∧
      s.found.length < found.length + budget ∧ x.next g = .error error := by
  induction budget generalizing calls found r waiting with
  | zero => cases h
  | succ budget ih =>
    obtain hfault | ⟨children, hnext, h⟩ := bind_eq_error_iff.mp h
    · exact ⟨_, r, _, .refl, rfl, by simp [below], hfault⟩
    · have hstripped := stripped_of_queue hnext hwaiting
      cases hqueue : children ++ waiting with
      | nil =>
        rw [hqueue] at h
        cases h
      | cons first later =>
        rw [hqueue] at h hstripped
        obtain ⟨hfirst, hlater⟩ := List.forall_mem_cons.mp hstripped
        obtain hfault | ⟨_, -, h⟩ := bind_eq_error_iff.mp h
        · obtain ⟨s, x, tasks, hleads, htasks, hless, hx⟩ :=
            ih hfault hlater (calls + 1) (found ++ [first.analysis word])
          refine ⟨s, x, tasks, .trans (below_leads_below hnext hqueue hfirst) hleads, htasks, ?_, hx⟩
          simp only [List.length_append, List.length_singleton] at hless
          omega
        · cases h

theorem leads_of_discover {found : List Analysis} (h : discover g word budget = .ok found) :
    ∃ s, Leads g word (start word) s ∧ s.found = found ∧
      (found.length = budget ∨ found.length < budget ∧ s.tasks = []) := by
  unfold discover at h
  split_ifs at h with hshort
  · obtain rfl := Except.ok.inj h
    refine ⟨_, .refl, rfl, ?_⟩
    obtain rfl | hpos := Nat.eq_zero_or_pos budget
    · exact .inl rfl
    · exact .inr ⟨hpos, if_pos hshort⟩
  · obtain ⟨⟨visited, exhausted⟩, hexplore, h⟩ := bind_eq_ok_iff.mp h
    obtain rfl := pure_eq_ok_iff.mp h
    obtain ⟨s, hleads, hfound, hend⟩ := leads_of_explore hexplore (List.forall_mem_nil _) 1 []
    have hstart := (leads_below hshort).trans hleads
    cases exhausted with
    | false =>
      refine ⟨s, hstart, ?_, .inl ?_⟩
      · simpa using hfound
      · simpa using hend
    | true =>
      obtain ⟨hless, htasks⟩ := hend
      obtain ⟨calls, found, tasks⟩ := s
      obtain rfl : tasks = [.whole] := htasks
      obtain rfl : found = visited.map (·.analysis word) := hfound
      refine ⟨_, .tail hstart .whole, by simp [hless], ?_⟩
      simp [hless]
      omega

theorem leads_of_discover_error {error : Pattern.Invalid}
    (h : discover g word budget = .error error) :
    ∃ s r tasks, Leads g word (start word) s ∧ s.tasks = .strip r :: tasks ∧
      s.found.length < budget ∧ r.next g = .error error := by
  unfold discover at h
  split_ifs at h with hshort
  · cases h
  · obtain hfault | ⟨_, -, h⟩ := bind_eq_error_iff.mp h
    · obtain ⟨s, r, tasks, hleads, htasks, hless, hr⟩ :=
        leads_of_explore_error hfault (List.forall_mem_nil _) 1 []
      have hstart := (leads_below hshort).trans hleads
      exact ⟨s, r, tasks, hstart, htasks, by simpa using hless, hr⟩
    · cases h

/-- Whatever the search has found at some time is found by a search with a limit. -/
theorem discover_of_leads {s : Search} (hs : Leads g word (start word) s) :
    discover g word s.found.length = .ok s.found := by
  cases hdiscover : discover g word s.found.length with
  | error error =>
    obtain ⟨t, r, tasks, ht, htasks, hless, hfault⟩ := leads_of_discover_error hdiscover
    obtain h | h := leads_or_leads hs ht
    · have hlength := (found_prefix_of_leads h).length_le
      omega
    · obtain rfl := eq_of_leads_of_fault htasks hfault h
      omega
  | ok found =>
    obtain ⟨t, ht, rfl, hstop⟩ := leads_of_discover hdiscover
    obtain hsame | ⟨hless, hdone⟩ := hstop
    · obtain h | h := leads_or_leads hs ht
      · rw [(found_prefix_of_leads h).eq_of_length hsame.symm]
      · rw [(found_prefix_of_leads h).eq_of_length hsame]
    · obtain h | h := leads_or_leads hs ht
      · have hlength := (found_prefix_of_leads h).length_le
        omega
      · obtain rfl := eq_of_leads_of_done hdone h
        omega

end Exploring

section Unlimited

theorem leads_of_follows {rs visited : List Remainder} (h : Follows g rs (.ok visited))
    (hrs : ∀ r ∈ rs, r.Stripped) (calls : Nat) (found : List Analysis) (tasks : List Task) :
    Leads g word ⟨calls, found, rs.map .visit ++ tasks⟩
      ⟨calls + visited.length, found ++ visited.map (·.analysis word), tasks⟩ := by
  generalize ho : (Except.ok visited : Except Pattern.Invalid (List Remainder)) = outcome at h
  induction h generalizing visited calls found tasks with
  | nil =>
    obtain rfl := Except.ok.inj ho
    rw [List.length_nil, Nat.add_zero, List.map_nil, List.map_nil, List.append_nil, List.nil_append]
    exact .refl
  | fault | faultBelow | faultBeside => cases ho
  | @cons r rest children visited' more next _ _ below beside =>
    obtain rfl := Except.ok.inj ho
    obtain ⟨hr, hrest⟩ := List.forall_mem_cons.mp hrs
    have hgive : Leads g word ⟨calls, found, (r :: rest).map .visit ++ tasks⟩ _ := leads_of_give hr
    have hbelow := below (stripped_of_next next) (calls + 1) (found ++ [r.analysis word])
      (rest.map .visit ++ tasks) rfl
    have hbeside := beside hrest (calls + 1 + visited'.length)
      (found ++ [r.analysis word] ++ visited'.map (·.analysis word)) tasks rfl
    have hall := hgive.trans (.head (.strip next) (hbelow.trans hbeside))
    have hcalls : calls + (r :: visited' ++ more).length =
        calls + 1 + visited'.length + more.length := by
      rw [List.length_append, List.length_cons]
      omega
    have hfound : found ++ (r :: visited' ++ more).map (·.analysis word) =
        found ++ [r.analysis word] ++ visited'.map (·.analysis word) ++
          more.map (·.analysis word) := by
      simp
    rwa [hcalls, hfound]

/-- The search without a limit finds all that the search has found when it is done. -/
theorem leads_of_discoverAll {all : List Analysis} (h : discoverAll g word = some (.ok all)) :
    ∃ s, Leads g word (start word) s ∧ s.found = all ∧ s.tasks = [] := by
  by_cases hshort : word.length < minRootLength
  · have hnone : discoverAll g word = some (.ok []) := if_pos hshort
    obtain rfl := Except.ok.inj (Option.some.inj (hnone.symm.trans h))
    exact ⟨_, .refl, rfl, if_pos hshort⟩
  · obtain ⟨children, visited, hnext, hfollows, rfl⟩ :=
      (discoverAll_eq_ok_iff (Nat.le_of_not_lt hshort)).mp h
    have hbelow : Leads g word ⟨1, [], children.map .visit ++ [.whole]⟩ _ :=
      leads_of_follows hfollows (stripped_of_next hnext) 1 [] [.whole]
    have hstrip : Leads g word (below 1 [] (.start word) []) _ :=
      .head (.strip hnext) (hbelow.tail .whole)
    exact ⟨_, (leads_below hshort).trans hstrip, rfl, rfl⟩

end Unlimited

/-- No malformed pattern is met before a number of analyses is found. -/
def Clear (g : Grammar) (word : Text) (n : Nat) : Prop :=
  ∀ s r tasks, Leads g word (start word) s → s.tasks = .strip r :: tasks → s.found.length < n →
    ∃ children, r.next g = .ok children

theorem clear_of_compiles (hg : g.Compiles) (n : Nat) : Clear g word n := by
  intro s r tasks _ _ _
  refine ⟨r.children g, Remainder.next_eq_ok_iff.mpr ⟨fun _ owned howned => ?_, rfl⟩⟩
  exact SuffixDefinition.strip_total (hg owned howned) r.root

theorem exists_discover_of_clear {n : Nat} (h : Clear g word n) :
    ∃ found, discover g word n = .ok found := by
  rw [exists_eq_ok_iff]
  intro error herror
  obtain ⟨s, r, tasks, hleads, htasks, hless, hfault⟩ := leads_of_discover_error herror
  obtain ⟨children, hnext⟩ := h s r tasks hleads htasks hless
  cases hfault.symm.trans hnext

/-- What has been found when the search is stopped is the beginning of what it finds in the end. -/
theorem found_eq_take {s t : Search} {n : Nat} (hs : Leads g word (start word) s)
    (hstop : s.found.length = n ∨ s.found.length < n ∧ s.tasks = [])
    (ht : Leads g word (start word) t) (hdone : t.tasks = []) : s.found = t.found.take n := by
  have hleads : Leads g word s t := by
    obtain h | h := leads_or_leads hs ht
    · exact h
    · exact eq_of_leads_of_done hdone h ▸ .refl
  obtain hlength | ⟨hless, hends⟩ := hstop
  · exact hlength ▸ List.prefix_iff_eq_take.mp (found_prefix_of_leads hleads)
  · obtain rfl := eq_of_leads_of_done hends hleads
    exact (List.take_of_length_le (Nat.le_of_lt hless)).symm

end Search

theorem budgetOf_of_pos {n : Nat} (hpos : 1 ≤ n) (hmax : n ≤ maxLimit) :
    budgetOf (some n) = .ok (some n) := by
  have hzero : (n : Int) ≠ 0 := by omega
  have hnegative : ¬ (n : Int) < 0 := by omega
  have hrange : ¬ ((n : Int) = -1 || (maxLimit : Int) < n || n < -(maxLimit : Int) - 1) = true := by
    simp
    omega
  unfold budgetOf
  dsimp only
  rw [if_neg hzero, if_neg hrange, if_neg hnegative]
  rfl

/-- A limit ends every search, an endless one too. When it is stopped it has made one call more than
it has found analyses, at most, and what it gives are these by rank: the first of all that there
are. -/
theorem analyzeAll_limited {n : Nat} (hpos : 1 ≤ n) (hmax : n ≤ maxLimit)
    (hclear : Search.Clear g word n) :
    ∃ s, Search.Leads g word (.start word) s ∧ s.calls ≤ n + 1 ∧
      (s.found.length = n ∨ s.found.length < n ∧ s.tasks = []) ∧
      analyzeAll g (some n) word = .ok (rank s.found) ∧
      ∀ all, discoverAll g word = some (.ok all) → s.found = all.take n := by
  obtain ⟨found, hdiscover⟩ := Search.exists_discover_of_clear hclear
  obtain ⟨s, hleads, rfl, hstop⟩ := Search.leads_of_discover hdiscover
  have hcalls := Search.calls_le hleads
  have hsegmentations : segmentations g (some n) word = .ok s.found := by
    simp only [segmentations, budgetOf_of_pos hpos hmax, hdiscover]
  refine ⟨s, hleads, by omega, hstop, ?_, fun all hall => ?_⟩
  · exact analyzeAll_eq_ok_iff.mpr ⟨s.found, hsegmentations, rfl⟩
  · obtain ⟨t, ht, rfl, hdone⟩ := Search.leads_of_discoverAll hall
    exact Search.found_eq_take hleads hstop ht hdone

theorem Restoring.grammar_compiles : Restoring.grammar.Compiles := by
  have hsuffixes : Restoring.grammar.suffixes = [(Restoring.ending, Restoring.echo)] := rfl
  have hread : (Pattern.Node.read (Pattern.anchored .closing ['a'])).toOption.isSome := by cbv
  obtain ⟨node, hnode⟩ := Option.isSome_iff_exists.mp hread
  rw [Grammar.Compiles, hsuffixes, List.forall_mem_singleton]
  exact fun _ => ⟨node, eq_ok_of_toOption hnode⟩

/-- A search that never ends is stopped by a limit. -/
theorem restoring_limited :
    analyzeAll Restoring.grammar none "xxab".toList = .error .endless ∧
      ∃ s, Search.Leads Restoring.grammar "xxab".toList (.start "xxab".toList) s ∧ s.calls ≤ 3 ∧
        (s.found.length = 2 ∨ s.found.length < 2 ∧ s.tasks = []) ∧
        analyzeAll Restoring.grammar (some 2) "xxab".toList = .ok (rank s.found) ∧
        ∀ all, discoverAll Restoring.grammar "xxab".toList = some (.ok all) →
          s.found = all.take 2 :=
  ⟨analyzeAll_endless_iff_descends.mpr
    ⟨Restoring.stripped, rfl, fun n => Restoring.descends (Restoring.stripped_root n)⟩,
    analyzeAll_limited (by decide) (by decide) (Search.clear_of_compiles Restoring.grammar_compiles 2)⟩

end Morphotactics
