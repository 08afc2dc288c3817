import Morphotactics.Proofs.Pattern.Running
import Mathlib.Data.List.Forall2

/-! Readers in front of a closing parenthesis. What is read there is read in the same way where the
pattern ends instead, as long as the parenthesis itself is not taken. -/
namespace Morphotactics.Pattern

open Reader

variable {α β : Type}

/-- The same piece, perhaps elsewhere in its pattern. -/
def Piece.Same (p q : Piece) : Prop :=
  p.escaped = q.escaped ∧ p.char = q.char

theorem Piece.Same.isBare {p q : Piece} (h : p.Same q) (c : Char) : p.isBare c = q.isBare c := by
  unfold Piece.isBare
  rw [h.1, h.2]

theorem Piece.Same.text {p q : Piece} (h : p.Same q) : p.text = q.text := by
  unfold Piece.text
  rw [h.1, h.2]

/-- What has been found in two patterns so far is the same. -/
structure Reading.Agrees (s t : Reading) : Prop where
  widths : s.widths = t.widths
  names : s.names = t.names
  behind : s.behind = t.behind

theorem Reading.Agrees.isClosed {s t : Reading} (h : s.Agrees t) (index : Nat) :
    isClosed s index = isClosed t index := by
  unfold Pattern.isClosed
  rw [h.widths]

/-- The second reading has a closing parenthesis and further pieces behind those of the first. -/
structure Reading.Extends (close : Piece) (more : List Piece) (s t : Reading) : Prop
    extends s.Agrees t where
  isBare : close.isBare ')'
  rest : ∃ front, List.Forall₂ Piece.Same s.rest front ∧ t.rest = front ++ close :: more

namespace Reading.Extends

variable {close : Piece} {more : List Piece} {s t : Reading}

theorem length (h : s.Extends close more t) :
    t.rest.length = s.rest.length + (more.length + 1) := by
  obtain ⟨front, hsame, hrest⟩ := h.rest
  rw [hrest, List.length_append, hsame.length_eq, List.length_cons]

theorem suffix (h : s.Extends close more t) : close :: more <:+ t.rest := by
  obtain ⟨front, -, hrest⟩ := h.rest
  exact ⟨front, hrest.symm⟩

/-- Both readings go on with the same piece, or the first is at its end and the second at the
parenthesis. -/
theorem cases (h : s.Extends close more t) :
    (s.rest = [] ∧ t.rest = close :: more) ∨
      ∃ p rest q rest', s.rest = p :: rest ∧ t.rest = q :: rest' ∧ p.Same q ∧
        Reading.Extends close more { s with rest := rest } { t with rest := rest' } := by
  obtain ⟨⟨hwidths, hnames, hbehind⟩, hbare, front, hsame, hrest⟩ := h
  cases hs : s.rest with
  | nil =>
    rw [hs, List.forall₂_nil_left_iff] at hsame
    rw [hsame, List.nil_append] at hrest
    exact .inl ⟨rfl, hrest⟩
  | cons p rest =>
    rw [hs] at hsame
    obtain ⟨q, front', hpq, hmore, rfl⟩ := List.forall₂_cons_left_iff.mp hsame
    exact .inr ⟨p, rest, q, _, rfl, hrest, hpq, ⟨hwidths, hnames, hbehind⟩, hbare, front', hmore,
      rfl⟩

end Reading.Extends

/-- The second reader only drops pieces. Where it does not get behind the closing parenthesis, the
first reads the same in a reading of less than `size` pieces that ends there. -/
structure Mirrors (size : Nat) (m m' : Reader α) : Prop where
  drops : ∀ {t a t'}, Reads m' t a t' → t'.rest <:+ t.rest
  mirrors : ∀ {close more s t a t'}, s.Extends close more t → s.rest.length < size →
    Reads m' t a t' → more.length < t'.rest.length → ∃ s', Reads m s a s' ∧ s'.Extends close more t'

namespace Mirrors

variable {size : Nat} {m m' : Reader α} {f f' : α → Reader β}

theorem mono {size' : Nat} (h : Mirrors size m m') (hle : size' ≤ size) : Mirrors size' m m' where
  drops := h.drops
  mirrors hext hlength := h.mirrors hext (hlength.trans_le hle)

theorem pure (a : α) : Mirrors size (pure a) (pure a) where
  drops h := (reads_pure_iff.mp h).2 ▸ List.suffix_refl _
  mirrors hext _ h _ := by
    obtain ⟨rfl, rfl⟩ := reads_pure_iff.mp h
    exact ⟨_, reads_pure_iff.mpr ⟨rfl, rfl⟩, hext⟩

theorem of_fails (h : ∀ s a s', ¬ Reads m' s a s') : Mirrors size m m' where
  drops hreads := absurd hreads (h _ _ _)
  mirrors _ _ hreads := absurd hreads (h _ _ _)

theorem throw (fault : Fault) : Mirrors size m (throw fault) :=
  of_fails fun _ _ _ => not_reads_throw

theorem fail (problem : Problem) (back : Nat) : Mirrors size m (fail problem back) :=
  of_fails fun _ _ _ => not_reads_fail

theorem throw_bind {m : Reader β} (fault : Fault) :
    Mirrors size m ((MonadExcept.throw fault : Reader α) >>= f') :=
  of_fails fun _ _ _ => not_reads_throw_bind

theorem fail_bind {m : Reader β} (problem : Problem) (back : Nat) :
    Mirrors size m (Reader.fail problem back >>= f') :=
  of_fails fun _ _ _ => not_reads_fail_bind

theorem bind (h : Mirrors size m m') (hnext : ∀ a, Mirrors size (f a) (f' a)) :
    Mirrors size (m >>= f) (m' >>= f') where
  drops hreads := by
    obtain ⟨a, middle, hfirst, hsecond⟩ := reads_bind_iff.mp hreads
    exact ((hnext a).drops hsecond).trans (h.drops hfirst)
  mirrors {close more s t b t'} hext hsize hreads hlength := by
    obtain ⟨a, middle, hfirst, hsecond⟩ := reads_bind_iff.mp hreads
    have hafter := ((hnext a).drops hsecond).length_le
    have hbefore := (h.drops hfirst).length_le
    obtain ⟨s₁, hs₁, hext₁⟩ := h.mirrors hext hsize hfirst (by omega)
    have hlong := hext.length
    have hlong₁ := hext₁.length
    obtain ⟨s₂, hs₂, hext₂⟩ := (hnext a).mirrors hext₁ (by omega) hsecond hlength
    exact ⟨s₂, reads_bind_iff.mpr ⟨a, s₁, hs₁, hs₂⟩, hext₂⟩

theorem map (h : Mirrors size m m') (change : α → β) :
    Mirrors size (change <$> m) (change <$> m') := by
  rw [map_eq_pure_bind, map_eq_pure_bind]
  exact h.bind fun _ => pure _

theorem ite {p : Prop} [Decidable p] {n n' : Reader α} (hpos : p → Mirrors size m m')
    (hneg : ¬ p → Mirrors size n n') :
    Mirrors size (if p then m else n) (if p then m' else n') := by
  split_ifs with h
  · exact hpos h
  · exact hneg h

theorem zero_congr {m₁ : Reader α} (h : Mirrors 0 m m') : Mirrors 0 m₁ m' where
  drops := h.drops
  mirrors _ hsize := absurd hsize (Nat.not_lt_zero _)

/-- At its end the first reading does what the second does in front of the parenthesis, if that is
not taken. -/
theorem peek_bind {f f' : Option Piece → Reader β}
    (hnone : Mirrors 0 (f none) (f' none))
    (hend : ∀ q, q.isBare ')' → Mirrors size (f none) (f' (some q)) ∨
      ∃ k k' : Reader β, Mirrors 0 k k' ∧ f' (some q) = next >>= fun _ => k')
    (hsome : ∀ p q, p.Same q → Mirrors size (f (some p)) (f' (some q))) :
    Mirrors size (peek >>= f) (peek >>= f') where
  drops {t b t'} hreads := by
    rw [reads_peek_bind_iff] at hreads
    cases hhead : t.rest.head? with
    | none =>
      rw [hhead] at hreads
      exact hnone.drops hreads
    | some p =>
      rw [hhead] at hreads
      exact (hsome p p ⟨rfl, rfl⟩).drops hreads
  mirrors {close more s t b t'} hext hsize hreads hlength := by
    simp only [reads_peek_bind_iff] at hreads ⊢
    obtain ⟨hs, ht⟩ | ⟨p, rest, q, rest', hs, ht, hpq, -⟩ := hext.cases
    · rw [ht, List.head?_cons] at hreads
      rw [hs, List.head?_nil]
      obtain hsame | ⟨k, k', hk, htaken⟩ := hend close hext.isBare
      · exact hsame.mirrors hext hsize hreads hlength
      · rw [htaken, reads_next_bind_iff] at hreads
        have hshort : t'.rest.length ≤ t.rest.tail.length := (hk.drops hreads).length_le
        rw [ht, List.tail_cons] at hshort
        omega
    · rw [ht, List.head?_cons] at hreads
      rw [hs, List.head?_cons]
      exact (hsome p q hpq).mirrors hext hsize hreads hlength

theorem next_bind {f f' : Option Piece → Reader β} (hnone : Mirrors 0 (f none) (f' none))
    (hsome : ∀ p q, p.Same q → Mirrors (size - 1) (f (some p)) (f' (some q))) :
    Mirrors size (next >>= f) (next >>= f') := by
  have hdrops : ∀ {t b t'}, Reads (next >>= f') t b t' → t'.rest <:+ t.rest.tail := by
    intro t b t' hreads
    rw [reads_next_bind_iff] at hreads
    cases hhead : t.rest.head? with
    | none =>
      rw [hhead] at hreads
      exact hnone.drops hreads
    | some p =>
      rw [hhead] at hreads
      exact (hsome p p ⟨rfl, rfl⟩).drops hreads
  refine ⟨fun hreads => (hdrops hreads).trans (List.tail_suffix _), ?_⟩
  intro close more s t b t' hext hsize hreads hlength
  have hlong := (hdrops hreads).length_le
  simp only [reads_next_bind_iff] at hreads ⊢
  obtain ⟨-, ht⟩ | ⟨p, rest, q, rest', hs, ht, hpq, hext₁⟩ := hext.cases
  · rw [ht, List.tail_cons] at hlong
    omega
  · rw [ht, List.head?_cons, List.tail_cons] at hreads
    rw [hs, List.length_cons] at hsize
    rw [hs, List.head?_cons, List.tail_cons]
    have hshort : rest.length < size - 1 := by omega
    exact (hsome p q hpq).mirrors hext₁ hshort hreads hlength

theorem skip_bind {k k' : Reader β} (h : Mirrors (size - 1) k k') :
    Mirrors size (next >>= fun _ => k) (next >>= fun _ => k') :=
  next_bind (h.mono (Nat.zero_le _)) fun _ _ _ => h

theorem accept_bind {c : Char} {f f' : Bool → Reader β}
    (htrue : Mirrors (size - 1) (f true) (f' true)) (hfalse : Mirrors size (f false) (f' false)) :
    Mirrors size (accept c >>= f) (accept c >>= f') := by
  unfold accept
  simp only [bind_assoc]
  refine peek_bind ?_ (fun q _ => ?_) fun p q hpq => ?_
  · simpa only [pure_bind] using hfalse.mono (Nat.zero_le _)
  · dsimp only
    split_ifs
    · simp only [bind_assoc, pure_bind]
      exact .inr ⟨_, _, htrue.mono (Nat.zero_le _), rfl⟩
    · simp only [pure_bind]
      exact .inl hfalse
  · dsimp only
    rw [hpq.isBare c]
    split_ifs
    · simp only [bind_assoc, pure_bind]
      exact skip_bind htrue
    · simpa only [pure_bind] using hfalse

theorem accept {c : Char} : Mirrors size (accept c) (accept c) := by
  have h : Mirrors size (Reader.accept c >>= Pure.pure) (Reader.accept c >>= Pure.pure) :=
    accept_bind (pure true) (pure false)
  rwa [bind_pure] at h

theorem tell_bind {f f' : Nat → Reader β} (h : ∀ here here', Mirrors size (f here) (f' here')) :
    Mirrors size (tell >>= f) (tell >>= f') where
  drops hreads := (h 0 _).drops (reads_tell_bind_iff.mp hreads)
  mirrors hext hsize hreads hlength := by
    rw [reads_tell_bind_iff] at hreads
    simp only [reads_tell_bind_iff]
    exact (h _ _).mirrors hext hsize hreads hlength

theorem get_bind {f f' : Reading → Reader β}
    (h : ∀ s t, s.Agrees t → s.rest.length ≤ t.rest.length →
      Mirrors (min size (s.rest.length + 1)) (f s) (f' t)) :
    Mirrors size (get >>= f) (get >>= f') where
  drops hreads := (h _ _ ⟨rfl, rfl, rfl⟩ le_rfl).drops (reads_get_bind_iff.mp hreads)
  mirrors {close more s t b t'} hext hsize hreads hlength := by
    rw [reads_get_bind_iff] at hreads
    simp only [reads_get_bind_iff]
    have hle : s.rest.length ≤ t.rest.length := by
      rw [hext.length]
      exact Nat.le_add_right _ _
    exact (h s t hext.toAgrees hle).mirrors hext (lt_min hsize (Nat.lt_succ_self _)) hreads hlength

theorem modify {change change' : Reading → Reading} (hrest : ∀ s, (change s).rest = s.rest)
    (hrest' : ∀ s, (change' s).rest = s.rest)
    (h : ∀ s t, s.Agrees t → (change s).Agrees (change' t)) :
    Mirrors size (modify change) (modify change') where
  drops hreads := by
    obtain rfl := reads_modify_iff.mp hreads
    rw [hrest']
  mirrors {close more s t b t'} hext _ hreads _ := by
    obtain rfl := reads_modify_iff.mp hreads
    refine ⟨change s, reads_modify_iff.mpr rfl, h s t hext.toAgrees, hext.isBare, ?_⟩
    rw [hrest, hrest']
    exact hext.rest

/-- A loop that takes a piece in each round may be allowed any number of rounds that is enough. -/
theorem loop {ι : Type} (m m' : ι → Nat → Reader α)
    (hzero : ∀ size i, Mirrors size (m i 0) (m' i 0))
    (hsucc : ∀ size n n' i, (∀ i, Mirrors (size - 1) (m i n) (m' i n')) →
      Mirrors size (m i (n + 1)) (m' i (n' + 1))) {n n' : Nat}
    (hn : size ≤ n ∧ size ≤ n' ∨ n = n') (i : ι) : Mirrors size (m i n) (m' i n') := by
  induction n' generalizing size n i with
  | zero =>
    cases n with
    | zero => exact hzero size i
    | succ n =>
      obtain rfl : size = 0 := by omega
      exact zero_congr (hzero 0 i)
  | succ n' ih =>
    cases n with
    | zero =>
      obtain rfl : size = 0 := by omega
      exact zero_congr (hsucc 0 n' n' i fun i => ih (.inr rfl) i)
    | succ n => exact hsucc size n n' i fun i => ih (by omega) i

theorem takeWhile (isMember : Char → Bool) {n n' : Nat} (hn : size ≤ n ∧ size ≤ n' ∨ n = n') :
    Mirrors size (takeWhile isMember n) (takeWhile isMember n') := by
  refine loop (fun (_ : Unit) n => Reader.takeWhile isMember n)
    (fun _ n => Reader.takeWhile isMember n) (fun _ _ => pure []) ?_ hn ()
  intro size n n' _ ih
  have htaken : ∀ c, Mirrors (size - 1) (do return c :: (← Reader.takeWhile isMember n))
      (do return c :: (← Reader.takeWhile isMember n')) := fun c => (ih ()).bind fun _ => pure _
  rw [Reader.takeWhile, Reader.takeWhile]
  refine peek_bind (pure _) (fun q _ => ?_) fun p q hpq => ?_
  · dsimp only
    split_ifs
    · exact .inr ⟨_, _, (htaken _).mono (Nat.zero_le _), rfl⟩
    · exact .inl (pure _)
  · dsimp only
    rw [hpq.1, hpq.2]
    exact ite (fun _ => skip_bind (htaken _)) fun _ => pure _

theorem digits : Mirrors size digits digits := by
  rw [digits_eq]
  refine get_bind fun s t _ hlength => ?_
  exact takeWhile _ (.inl (by omega))

theorem takeUntil (mark : Char) (what : String) :
    Mirrors size (takeUntil mark what) (takeUntil mark what) := by
  unfold Reader.takeUntil
  refine get_bind fun s t _ hlength => ?_
  refine loop (fun name n => Reader.takeUntil.go mark what n name)
    (fun name n => Reader.takeUntil.go mark what n name) (fun _ _ => pure _) ?_
    (.inl (by omega)) []
  intro size n n' name ih
  rw [Reader.takeUntil.go, Reader.takeUntil.go]
  refine next_bind ?_ fun p q hpq => ?_
  · exact ite (fun _ => fail _ _) fun _ => fail _ _
  · dsimp only
    rw [hpq.isBare, hpq.text]
    refine ite (fun _ => ?_) fun _ => ih _
    exact ite (fun _ => fail _ _) fun _ => pure _

end Mirrors

end Morphotactics.Pattern
