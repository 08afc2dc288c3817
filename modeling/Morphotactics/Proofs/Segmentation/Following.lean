import Morphotactics.Proofs.Segmentation.Stripping

/-! What the search without a limit comes to, where it comes to anything. -/
namespace Morphotactics

/-- The outcome of following remainders. -/
inductive Follows (g : Grammar) : List Remainder → Except Pattern.Invalid (List Remainder) → Prop
  | nil : Follows g [] (.ok [])
  | fault {r : Remainder} {rest : List Remainder} {error : Pattern.Invalid}
      (next : r.next g = .error error) : Follows g (r :: rest) (.error error)
  | faultBelow {r : Remainder} {rest children : List Remainder} {error : Pattern.Invalid}
      (next : r.next g = .ok children) (below : Follows g children (.error error)) :
      Follows g (r :: rest) (.error error)
  | faultBeside {r : Remainder} {rest children found : List Remainder} {error : Pattern.Invalid}
      (next : r.next g = .ok children) (below : Follows g children (.ok found))
      (beside : Follows g rest (.error error)) : Follows g (r :: rest) (.error error)
  | cons {r : Remainder} {rest children found more : List Remainder}
      (next : r.next g = .ok children) (below : Follows g children (.ok found))
      (beside : Follows g rest (.ok more)) : Follows g (r :: rest) (.ok (r :: found ++ more))

variable {g : Grammar} {rs : List Remainder} {outcome : Except Pattern.Invalid (List Remainder)}

theorem follow_of_follows (h : Follows g rs outcome) : g.follow rs = some outcome := by
  induction h with
  | nil => rw [Grammar.follow]
  | fault next => rw [Grammar.follow, next]
  | faultBelow next _ below =>
    rw [Grammar.follow, next]
    simp [below]
  | faultBeside next _ _ below beside =>
    rw [Grammar.follow, next]
    simp [below, beside]
  | cons next _ _ below beside =>
    rw [Grammar.follow, next]
    simp [below, beside]

/-- An outcome of the search is found in finitely many steps. -/
theorem follows_of_follow (h : g.follow rs = some outcome) : Follows g rs outcome := by
  -- It is enough to derive the outcomes of one round from those of the rounds below it.
  refine Grammar.follow.partial_correctness g (Follows g) ?_ rs outcome h
  intro search ih rs outcome h
  cases rs with
  | nil =>
    obtain rfl : Except.ok [] = outcome := Option.some.inj h
    exact .nil
  | cons r rest =>
    dsimp only at h
    cases hnext : r.next g with
    | error error =>
      rw [hnext] at h
      obtain rfl : Except.error error = outcome := Option.some.inj h
      exact .fault hnext
    | ok children =>
      rw [hnext] at h
      obtain ⟨below, hbelow, h⟩ := Option.bind_eq_some_iff.mp h
      cases below with
      | error error =>
        obtain rfl : Except.error error = outcome := Option.some.inj h
        exact .faultBelow hnext (ih _ _ hbelow)
      | ok found =>
        obtain ⟨beside, hbeside, h⟩ := Option.bind_eq_some_iff.mp h
        cases beside with
        | error error =>
          obtain rfl : Except.error error = outcome := Option.some.inj h
          exact .faultBeside hnext (ih _ _ hbelow) (ih _ _ hbeside)
        | ok more =>
          obtain rfl : Except.ok (r :: found ++ more) = outcome := Option.some.inj h
          exact .cons hnext (ih _ _ hbelow) (ih _ _ hbeside)

/-- The search has an outcome where one can be derived, and it is that one. -/
theorem follow_eq_some_iff : g.follow rs = some outcome ↔ Follows g rs outcome :=
  ⟨follows_of_follow, follow_of_follows⟩

/-- The search never ends where no outcome can be derived. -/
theorem follow_eq_none_iff : g.follow rs = none ↔ ¬ ∃ outcome, Follows g rs outcome := by
  simp only [← follow_eq_some_iff, Option.eq_none_iff_forall_ne_some, not_exists, ne_eq]

theorem Follows.unique {other : Except Pattern.Invalid (List Remainder)}
    (h : Follows g rs outcome) (hother : Follows g rs other) : outcome = other :=
  Option.some.inj ((follow_of_follows h).symm.trans (follow_of_follows hother))

end Morphotactics
