import Morphotactics.Pattern
import Morphotactics.Proofs.Stepwise
import Mathlib.Data.List.Infix

/-! Runs of the readers of regular expressions, and the marks that readers stop at. -/
namespace Morphotactics.Pattern

open Reader

variable {α β : Type}

/-- The reader succeeds in the first reading and leaves the second. -/
def Reads (m : Reader α) (s : Reading) (a : α) (s' : Reading) : Prop :=
  m.run s = .ok (a, s')

section Steps

variable {m : Reader α} {f : α → Reader β} {s s' : Reading} {a a' : α} {b : β}

theorem Reads.unique {t : Reading} (h : Reads m s a s') (h' : Reads m s a' t) :
    a = a' ∧ s' = t :=
  Prod.mk.inj (Except.ok.inj (h.symm.trans h'))

theorem reads_pure_iff : Reads (pure a) s a' s' ↔ a = a' ∧ s = s' := by
  unfold Reads
  rw [StateT.run_pure, pure_eq_ok_iff, Prod.mk.injEq]

theorem reads_bind_iff :
    Reads (m >>= f) s b s' ↔ ∃ a middle, Reads m s a middle ∧ Reads (f a) middle b s' := by
  unfold Reads
  rw [StateT.run_bind, bind_eq_ok_iff, Prod.exists]

theorem not_reads_throw {fault : Fault} : ¬ Reads (throw fault) s a s' := by
  intro h
  cases h

theorem not_reads_throw_bind {fault : Fault} :
    ¬ Reads ((throw fault : Reader α) >>= f) s b s' := by
  intro h
  cases h

theorem not_reads_fail {problem : Problem} {back : Nat} : ¬ Reads (fail problem back) s a s' := by
  intro h
  cases h

theorem not_reads_fail_bind {problem : Problem} {back : Nat} :
    ¬ Reads ((fail problem back : Reader α) >>= f) s b s' := by
  intro h
  cases h

theorem reads_modify_iff {change : Reading → Reading} {u : PUnit} :
    Reads (modify change) s u s' ↔ change s = s' := by
  unfold Reads
  rw [StateT.run_modify, pure_eq_ok_iff, Prod.mk.injEq]
  exact and_iff_right rfl

theorem reads_set_bind_iff {r : Reading} {m : Reader β} :
    Reads (do set r; m) s b s' ↔ Reads m r b s' :=
  Iff.rfl

theorem reads_modify_bind_iff {change : Reading → Reading} {f : PUnit → Reader β} :
    Reads (modify change >>= f) s b s' ↔ Reads (f ()) (change s) b s' :=
  Iff.rfl

theorem reads_get_bind_iff {f : Reading → Reader β} :
    Reads (get >>= f) s b s' ↔ Reads (f s) s b s' :=
  Iff.rfl

theorem reads_peek_bind_iff {f : Option Piece → Reader β} :
    Reads (peek >>= f) s b s' ↔ Reads (f s.rest.head?) s b s' :=
  Iff.rfl

theorem reads_next_bind_iff {f : Option Piece → Reader β} :
    Reads (next >>= f) s b s' ↔ Reads (f s.rest.head?) { s with rest := s.rest.tail } b s' :=
  Iff.rfl

theorem reads_tell_bind_iff {f : Nat → Reader β} :
    Reads (tell >>= f) s b s' ↔
      Reads (f ((s.rest.head?.map (·.position)).getD s.finish)) s b s' :=
  Iff.rfl

/-- A mark is taken if it stands in front. -/
theorem reads_accept {c : Char} {taken : Bool} (h : Reads (accept c) s taken s') :
    (taken = true ∧ ∃ p, p.isBare c ∧ s.rest = p :: s'.rest) ∨ taken = false ∧ s' = s := by
  unfold accept at h
  rw [reads_peek_bind_iff] at h
  cases hhead : s.rest.head? with
  | none =>
    rw [hhead] at h
    exact .inr ((reads_pure_iff.mp h).imp Eq.symm Eq.symm)
  | some p =>
    simp only [hhead] at h
    split_ifs at h with hbare
    · rw [reads_next_bind_iff] at h
      obtain ⟨rfl, rfl⟩ := reads_pure_iff.mp h
      exact .inl ⟨rfl, p, hbare, (List.cons_head?_tail hhead).symm⟩
    · exact .inr ((reads_pure_iff.mp h).imp Eq.symm Eq.symm)

end Steps

section Digits

theorem run_takeWhile_cons (isMember : Char → Bool) (n : Nat) {p : Piece} {s : Reading}
    (h : s.rest.head? = some p) : (takeWhile isMember (n + 1)).run s =
      if !p.escaped && isMember p.char then
        ((p.char :: ·) <$> takeWhile isMember n).run { s with rest := s.rest.tail }
      else .ok ([], s) := by
  obtain ⟨rest, finish, widths, names, behind, awaited⟩ := s
  cases rest with
  | nil => cases h
  | cons q rest =>
    obtain rfl := Option.some.inj h
    by_cases hmember : (!q.escaped && isMember q.char) = true
    · rw [if_pos hmember]
      exact congrFun (congrArg StateT.run (if_pos hmember)) _
    · rw [if_neg hmember]
      exact congrFun (congrArg StateT.run (if_neg hmember)) _

/-- One round for each piece is enough. -/
theorem run_takeWhile_succ (isMember : Char → Bool) {n : Nat} {s : Reading}
    (h : s.rest.length ≤ n) :
    (takeWhile isMember (n + 1)).run s = (takeWhile isMember n).run s := by
  induction n generalizing s with
  | zero =>
    obtain ⟨rest, finish, widths, names, behind, awaited⟩ := s
    obtain rfl := List.length_eq_zero_iff.mp (Nat.le_zero.mp h)
    rfl
  | succ n ih =>
    cases hs : s.rest with
    | nil =>
      obtain ⟨rest, finish, widths, names, behind, awaited⟩ := s
      obtain rfl := hs
      rfl
    | cons p rest =>
      have hhead : s.rest.head? = some p := by rw [hs, List.head?_cons]
      have hshort : s.rest.tail.length ≤ n := by
        rw [hs, List.length_cons] at h
        rw [hs, List.tail_cons]
        exact Nat.le_of_succ_le_succ h
      have htail : (takeWhile isMember (n + 1)).run { s with rest := s.rest.tail } =
          (takeWhile isMember n).run { s with rest := s.rest.tail } := ih hshort
      rw [run_takeWhile_cons _ _ hhead, run_takeWhile_cons _ _ hhead, StateT.run_map,
        StateT.run_map, htail]

theorem digits_eq :
    digits = get >>= fun s => takeWhile Char.isDigit (s.rest.length + 1) := by
  funext s
  exact (run_takeWhile_succ _ le_rfl).symm

end Digits

section Bounds

/-- The numbers behind an opening brace, and whether a closing one follows. -/
def readBoundTexts : Reader (Text × Text × Bool) := do
  let low ← digits
  let high ← if ← accept ',' then digits else pure low
  return (low, high, ← accept '}')

def readBoundValues (here : Nat) (low high : Text) : Reader (Option (Nat × Option Nat)) := do
  let least ← if low.isEmpty then pure 0 else readCount low
  let most ← if high.isEmpty then pure none else some <$> readCount high
  if (most.map (decide <| · < least)).getD false then
    throw (.positioned .leastAboveMost here)
  return some (least, most)

theorem readBounds_eq : readBounds = (do
    let saved ← get
    let here ← tell
    if ((← peek).map (·.isBare '}')).getD false then return none
    let texts ← readBoundTexts
    if texts.2.2 then readBoundValues here texts.1 texts.2.1
    else
      set saved
      return none) := by
  unfold readBounds readBoundTexts readBoundValues
  simp only [bind_assoc, pure_bind]
  congr! 11 with saved here _ _ _ low taken
  cases taken
  · simp only [Bool.false_eq_true, if_false, bind_assoc, pure_bind]
  · simp only [if_true, bind_assoc, pure_bind]

/-- Bounds are read, or else nothing is. -/
theorem reads_readBounds_iff {s s' : Reading} {bounds : Option (Nat × Option Nat)} :
    Reads readBounds s bounds s' ↔
      if (s.rest.head?.map (·.isBare '}')).getD false then none = bounds ∧ s = s'
      else ∃ texts middle, Reads readBoundTexts s texts middle ∧
        if texts.2.2 then
          Reads (readBoundValues ((s.rest.head?.map (·.position)).getD s.finish) texts.1 texts.2.1)
            middle bounds s'
        else none = bounds ∧ s = s' := by
  rw [readBounds_eq, reads_get_bind_iff, reads_tell_bind_iff, reads_peek_bind_iff]
  split_ifs
  · exact reads_pure_iff
  · rw [reads_bind_iff]
    refine exists₂_congr fun texts middle => and_congr_right fun _ => ?_
    split_ifs
    · rfl
    · rw [reads_set_bind_iff]
      exact reads_pure_iff

end Bounds

theorem Piece.isBare_iff {p : Piece} {c : Char} : p.isBare c ↔ p.escaped = false ∧ p.char = c := by
  unfold Piece.isBare
  rw [Bool.and_eq_true, Bool.not_eq_true', decide_eq_true_iff]

theorem Piece.eq_of_isBare {p : Piece} {c d : Char} (hc : p.isBare c) (hd : p.isBare d) : c = d :=
  (isBare_iff.mp hc).2.symm.trans (isBare_iff.mp hd).2

/-- Another piece in front of a mark and what follows it can be left out. -/
theorem suffix_of_not_isBare {mark : Char} {p q : Piece} {more rest : List Piece}
    (hp : p.isBare mark) (hq : ¬ q.isBare mark) (h : p :: more <:+ q :: rest) :
    p :: more <:+ rest := by
  obtain hsame | h := List.suffix_cons_iff.mp h
  · obtain ⟨rfl, -⟩ := List.cons.inj hsame
    exact absurd hp hq
  · exact h

/-- The reader does not get past a bare `mark` in front of certain pieces. -/
def StopsAt (mark : Char) (more : List Piece) (m : Reader α) : Prop :=
  ∀ ⦃s a s' p⦄, p.isBare mark → Reads m s a s' → p :: more <:+ s.rest → p :: more <:+ s'.rest

namespace StopsAt

variable {mark : Char} {more : List Piece} {m n : Reader α} {f : α → Reader β}

theorem bind (h : StopsAt mark more m) (hnext : ∀ a, StopsAt mark more (f a)) :
    StopsAt mark more (m >>= f) := by
  intro s b s' p hp hreads hin
  obtain ⟨a, middle, hfirst, hsecond⟩ := reads_bind_iff.mp hreads
  exact hnext a hp hsecond (h hp hfirst hin)

theorem of_unmoved (h : ∀ s a s', Reads m s a s' → s'.rest = s.rest) : StopsAt mark more m := by
  intro s a s' p _ hreads hin
  rwa [h s a s' hreads]

theorem pure (a : α) : StopsAt mark more (pure a : Reader α) :=
  of_unmoved fun _ _ _ h => (reads_pure_iff.mp h).2 ▸ rfl

theorem throw (fault : Fault) : StopsAt mark more (throw fault : Reader α) :=
  fun _ _ _ _ _ h => absurd h not_reads_throw

theorem fail (problem : Problem) (back : Nat) : StopsAt mark more (fail problem back : Reader α) :=
  fun _ _ _ _ _ h => absurd h not_reads_fail

theorem fail_bind (problem : Problem) (back : Nat) :
    StopsAt mark more (Reader.fail problem back >>= f) :=
  fun _ _ _ _ _ h => absurd h not_reads_fail_bind

theorem throw_bind (fault : Fault) :
    StopsAt mark more ((MonadExcept.throw fault : Reader α) >>= f) :=
  fun _ _ _ _ _ h => absurd h not_reads_throw_bind

/-- Only the mark itself must not be taken. -/
theorem next_bind {f : Option Piece → Reader β}
    (hmark : ∀ p, p.isBare mark → ∀ s b s', ¬ Reads (f (some p)) s b s')
    (hsome : ∀ p, StopsAt mark more (f (some p))) : StopsAt mark more (next >>= f) := by
  intro s b s' p hp hreads hin
  rw [reads_next_bind_iff] at hreads
  cases hs : s.rest with
  | nil =>
    rw [hs] at hin
    exact absurd (List.suffix_nil.mp hin) (List.cons_ne_nil _ _)
  | cons q rest =>
    rw [hs] at hreads hin
    by_cases hq : q.isBare mark
    · exact absurd hreads (hmark q hq _ _ _)
    · exact hsome q hp hreads (suffix_of_not_isBare hp hq hin)

theorem get_bind {f : Reading → Reader β} (h : ∀ s, StopsAt mark more (f s)) :
    StopsAt mark more (get >>= f) :=
  fun s _ _ _ hp hreads => h s hp (reads_get_bind_iff.mp hreads)

theorem modify {change : Reading → Reading} (h : ∀ s, (change s).rest = s.rest) :
    StopsAt mark more (modify change) :=
  of_unmoved fun s _ _ hreads => reads_modify_iff.mp hreads ▸ h s

theorem map (h : StopsAt mark more m) (change : α → β) : StopsAt mark more (change <$> m) := by
  rw [map_eq_pure_bind]
  exact h.bind fun _ => pure _

theorem ite {p : Prop} [Decidable p] (hpos : p → StopsAt mark more m)
    (hneg : ¬ p → StopsAt mark more n) : StopsAt mark more (if p then m else n) := by
  split_ifs with h
  · exact hpos h
  · exact hneg h

theorem accept {c : Char} (hc : c ≠ mark) : StopsAt mark more (accept c) := by
  intro s taken s' p hp hreads hin
  obtain ⟨-, q, hq, hrest⟩ | ⟨-, rfl⟩ := reads_accept hreads
  · rw [hrest] at hin
    exact suffix_of_not_isBare hp (fun hmark => hc (Piece.eq_of_isBare hq hmark)) hin
  · exact hin

theorem takeWhile {isMember : Char → Bool} (hmark : isMember mark = false) (n : Nat) :
    StopsAt mark more (takeWhile isMember n) := by
  induction n with
  | zero => exact pure _
  | succ n ih =>
    intro s taken s' p hp hreads hin
    rw [Reader.takeWhile, reads_peek_bind_iff] at hreads
    cases hs : s.rest with
    | nil =>
      rw [hs] at hreads
      exact pure _ hp hreads hin
    | cons q rest =>
      simp only [hs, List.head?_cons] at hreads
      split_ifs at hreads with hmember
      · rw [reads_next_bind_iff, hs, List.tail_cons] at hreads
        have hq : ¬ q.isBare mark := by
          intro hq
          rw [(Piece.isBare_iff.mp hq).2, hmark, Bool.and_false] at hmember
          cases hmember
        rw [hs] at hin
        exact (ih.bind fun _ => pure _) hp hreads (suffix_of_not_isBare hp hq hin)
      · exact pure _ hp hreads hin

theorem digits (hmark : mark.isDigit = false) : StopsAt mark more digits :=
  get_bind fun _ => takeWhile hmark _

end StopsAt

theorem readBoundTexts_stopsAt {mark : Char} {more : List Piece} (hdigit : mark.isDigit = false)
    (hcomma : ',' ≠ mark) (hclose : '}' ≠ mark) : StopsAt mark more readBoundTexts := by
  unfold readBoundTexts
  refine (StopsAt.digits hdigit).bind fun low => (StopsAt.accept hcomma).bind fun taken => ?_
  refine .ite (fun _ => (StopsAt.digits hdigit).bind fun _ => ?_) fun _ =>
    (StopsAt.pure _).bind fun _ => ?_
  all_goals exact (StopsAt.accept hclose).bind fun _ => .pure _

end Morphotactics.Pattern
