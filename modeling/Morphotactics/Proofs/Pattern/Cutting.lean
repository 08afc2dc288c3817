import Morphotactics.Proofs.Pattern.Mirroring

/-! What patterns are cut into. -/
namespace Morphotactics.Pattern

/-- A text and its pieces, the first of which has the given position. -/
inductive Cut : Nat → Text → List Piece → Prop
  | nil (k : Nat) : Cut k [] []
  | bare {k : Nat} {c : Char} {text : Text} {ps : List Piece} (hc : c ≠ '\\')
      (h : Cut (k + 1) text ps) : Cut k (c :: text) (⟨k, false, c⟩ :: ps)
  | escaped {k : Nat} {d : Char} {text : Text} {ps : List Piece} (h : Cut (k + 2) text ps) :
      Cut k ('\\' :: d :: text) (⟨k, true, d⟩ :: ps)

variable {k : Nat} {text : Text} {ps : List Piece}

theorem cut_of_pieces (h : pieces k text = .ok ps) : Cut k text ps := by
  induction k, text using pieces.induct generalizing ps with
  | case1 k =>
    obtain rfl := Except.ok.inj h
    exact .nil k
  | case2 k =>
    rw [pieces, if_pos rfl] at h
    cases h
  | case3 k c hc =>
    rw [pieces, if_neg hc] at h
    obtain rfl := Except.ok.inj h
    exact .bare hc (.nil _)
  | case4 k d rest ih =>
    rw [pieces, if_pos rfl] at h
    obtain ⟨more, hmore, h⟩ := bind_eq_ok_iff.mp h
    obtain rfl := pure_eq_ok_iff.mp h
    exact .escaped (ih hmore)
  | case5 k c d rest hc ih =>
    rw [pieces, if_neg hc] at h
    obtain ⟨more, hmore, h⟩ := bind_eq_ok_iff.mp h
    obtain rfl := pure_eq_ok_iff.mp h
    exact .bare hc (ih hmore)

namespace Cut

theorem exists_of_bare {c : Char} (hc : c ≠ '\\') (h : Cut k (c :: text) ps) :
    ∃ qs, ps = ⟨k, false, c⟩ :: qs ∧ Cut (k + 1) text qs := by
  cases h with
  | bare _ h => exact ⟨_, rfl, h⟩
  | escaped => exact absurd rfl hc

theorem exists_of_escaped {d : Char} (h : Cut k ('\\' :: d :: text) ps) :
    ∃ qs, ps = ⟨k, true, d⟩ :: qs ∧ Cut (k + 2) text qs := by
  cases h with
  | bare hc => exact absurd rfl hc
  | escaped h => exact ⟨_, rfl, h⟩

/-- A pattern that ends in no single backslash is cut in the same way in front of further text. -/
theorem of_append {first second : Text} {whole : List Piece} (h : Cut k first ps)
    (hwhole : Cut k (first ++ second) whole) :
    ∃ qs, whole = ps ++ qs ∧ Cut (k + first.length) second qs := by
  induction h generalizing whole with
  | nil k => exact ⟨whole, rfl, hwhole⟩
  | bare hc _ ih =>
    obtain ⟨rest, rfl, hrest⟩ := exists_of_bare hc hwhole
    obtain ⟨qs, rfl, hqs⟩ := ih hrest
    refine ⟨qs, rfl, ?_⟩
    rwa [List.length_cons, Nat.add_comm _ 1, ← Nat.add_assoc]
  | escaped _ ih =>
    obtain ⟨rest, rfl, hrest⟩ := exists_of_escaped hwhole
    obtain ⟨qs, rfl, hqs⟩ := ih hrest
    refine ⟨qs, rfl, ?_⟩
    rwa [List.length_cons, List.length_cons, Nat.add_assoc, Nat.add_comm _ 2, ← Nat.add_assoc]

theorem shift (h : Cut k text ps) (k' : Nat) :
    ∃ qs, Cut k' text qs ∧ List.Forall₂ Piece.Same ps qs := by
  induction h generalizing k' with
  | nil => exact ⟨[], .nil _, .nil⟩
  | bare hc _ ih =>
    obtain ⟨qs, hqs, hsame⟩ := ih (k' + 1)
    exact ⟨_, .bare hc hqs, .cons ⟨rfl, rfl⟩ hsame⟩
  | escaped _ ih =>
    obtain ⟨qs, hqs, hsame⟩ := ih (k' + 2)
    exact ⟨_, .escaped hqs, .cons ⟨rfl, rfl⟩ hsame⟩

theorem eq_of_singleton {c : Char} (hc : c ≠ '\\') (h : Cut k [c] ps) : ps = [⟨k, false, c⟩] := by
  obtain ⟨qs, rfl, hqs⟩ := exists_of_bare hc h
  cases hqs
  rfl

/-- A character is a piece of its own behind one that is no backslash. -/
theorem last {before c : Char} (hbefore : before ≠ '\\') (hc : c ≠ '\\')
    (h : Cut k (text ++ [before, c]) ps) : ∃ p, p.isBare c ∧ [p] <:+ ps := by
  have hsingle : ∀ {k qs} p, Cut k [c] qs → ∃ q, q.isBare c ∧ [q] <:+ p :: qs := by
    intro k qs p hqs
    obtain rfl := hqs.eq_of_singleton hc
    exact ⟨_, Piece.isBare_iff.mpr ⟨rfl, rfl⟩, List.suffix_cons _ _⟩
  generalize hwhole : text ++ [before, c] = whole at h
  induction h generalizing text with
  | nil => exact absurd (List.append_eq_nil_iff.mp hwhole).2 (List.cons_ne_nil _ _)
  | bare hd hrest ih =>
    cases text with
    | nil =>
      obtain ⟨rfl, rfl⟩ := List.cons.inj hwhole
      exact hsingle _ hrest
    | cons d text =>
      obtain ⟨p, hp, hin⟩ := ih (List.cons.inj hwhole).2
      exact ⟨p, hp, hin.trans (List.suffix_cons _ _)⟩
  | escaped hrest ih =>
    cases text with
    | nil => exact absurd (List.cons.inj hwhole).1 hbefore
    | cons d text =>
      cases text with
      | nil =>
        obtain ⟨-, hwhole⟩ := List.cons.inj hwhole
        obtain ⟨rfl, rfl⟩ := List.cons.inj hwhole
        exact hsingle _ hrest
      | cons e text =>
        obtain ⟨p, hp, hin⟩ := ih (List.cons.inj (List.cons.inj hwhole).2).2
        exact ⟨p, hp, hin.trans (List.suffix_cons _ _)⟩

end Cut

end Morphotactics.Pattern
