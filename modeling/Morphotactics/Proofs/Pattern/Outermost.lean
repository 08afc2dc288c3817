import Morphotactics.Proofs.Pattern.Stopping

/-! Sequences and alternatives at the outermost level of a pattern: an anchor in front of a pattern
is the first item of its first alternative, and one at its end the last item of its last. -/
namespace Morphotactics.Pattern

open Reader

/-- One round of a sequence leaves the items as they are, adds one, or repeats the last. -/
inductive Grows : List Node → List Node → Prop
  | same (items : List Node) : Grows items items
  | push (item : Node) (items : List Node) : Grows items (item :: items)
  | again (item : Node) (repetition : Node) (before : List Node)
      (hitem : ∀ place, item ≠ .anchor place) : Grows (item :: before) (repetition :: before)

variable {n : Nat} {items items' read : List Node} {s s' : Reading}

theorem readRepeat_grows {start least : Nat} {most : Option Nat}
    (h : Reads (readRepeat start least most items) s items' s') : Grows items items' := by
  unfold readRepeat at h
  split at h
  · exact absurd h not_reads_throw
  · exact absurd h not_reads_throw
  · exact absurd h not_reads_throw
  · rename_i hanchor _
    obtain ⟨lazy, _, -, h⟩ := reads_bind_iff.mp h
    split_ifs at h
    all_goals
      obtain ⟨possessive, _, -, h⟩ := reads_bind_iff.mp h
      obtain ⟨rfl, -⟩ := reads_pure_iff.mp h
      exact .again _ _ _ hanchor

/-- What a round does behind its first piece, the items read so far being given. -/
def GoesOn (n : Nat) (items : List Node) (m : Reader (List Node)) : Prop :=
  ∀ ⦃s read s'⦄, Reads m s read s' → ∃ middle items', Grows items items' ∧
    Reads (readSequence n false items') middle read s' ∧
      ∀ p, p.isBare '$' → [p] <:+ s.rest → [p] <:+ middle.rest

namespace GoesOn

variable {α : Type} {m : Reader α}

theorem ite {p : Prop} [Decidable p] {m m' : Reader (List Node)} (hpos : p → GoesOn n items m)
    (hneg : ¬ p → GoesOn n items m') : GoesOn n items (if p then m else m') := by
  split_ifs with h
  · exact hpos h
  · exact hneg h

theorem bind {f : α → Reader (List Node)} (h : StopsAt '$' [] m)
    (hnext : ∀ {s a s'}, Reads m s a s' → GoesOn n items (f a)) : GoesOn n items (m >>= f) := by
  intro s read s' hreads
  obtain ⟨a, first, hfirst, hreads⟩ := reads_bind_iff.mp hreads
  obtain ⟨middle, items', hgrows, hmore, hstops⟩ := hnext hfirst hreads
  exact ⟨middle, items', hgrows, hmore, fun p hp hin => hstops p hp (h hp hfirst hin)⟩

theorem sequence (h : Grows items items') : GoesOn n items (readSequence n false items') :=
  fun s _ _ hreads => ⟨s, items', h, hreads, fun _ _ => id⟩

end GoesOn

/-- Another round of a sequence has been read. If there is an anchor at the end of the pattern, it is
still to come, or it is the item that the round has added. -/
def Continues (n : Nat) (items : List Node) (s : Reading) (read : List Node) (s' : Reading) : Prop :=
  ∃ middle items', Grows items items' ∧ Reads (readSequence n false items') middle read s' ∧
    ∀ p, p.isBare '$' → [p] <:+ s.rest → [p] <:+ middle.rest ∨
      middle.rest = [] ∧ items' = .anchor .lineEnd :: items

theorem GoesOn.continues {m : Reader (List Node)} {p : Piece} {rest : List Piece}
    (h : GoesOn n items m) (hs : s.rest = p :: rest) (hp : ¬ p.isBare '$')
    (hreads : Reads m { s with rest := rest } read s') : Continues n items s read s' := by
  obtain ⟨middle, items', hgrows, hmore, hstops⟩ := h hreads
  refine ⟨middle, items', hgrows, hmore, fun q hq hin => .inl (hstops q hq ?_)⟩
  rw [hs] at hin
  exact suffix_of_not_isBare hq hp hin

/-- A sequence ends, or there is another round of it. -/
theorem readSequence_cases (h : Reads (readSequence (n + 1) false items) s read s') :
    (s = s' ∧ read = items.reverse.flatMap Node.unpacked) ∨ Continues n items s read s' := by
  rw [readSequence, reads_tell_bind_iff, reads_peek_bind_iff] at h
  cases hs : s.rest with
  | nil =>
    rw [hs] at h
    obtain ⟨rfl, rfl⟩ := reads_pure_iff.mp h
    exact .inl ⟨rfl, rfl⟩
  | cons p rest =>
    simp only [hs, List.head?_cons] at h
    by_cases hend : (p.isBare '|' || p.isBare ')') = true
    · rw [if_pos hend] at h
      obtain ⟨rfl, rfl⟩ := reads_pure_iff.mp h
      exact .inl ⟨rfl, rfl⟩
    rw [if_neg hend, reads_next_bind_iff, hs, List.tail_cons] at h
    refine .inr ?_
    simp only [Bool.false_and, Bool.false_eq_true, if_false] at h
    -- The anchor may be the last piece; any other piece leaves that to the rounds after it.
    by_cases hdollar : p.isBare '$'
    · obtain ⟨hescaped, hchar⟩ := Piece.isBare_iff.mp hdollar
      simp only [hescaped, hchar, Bool.false_eq_true, if_false] at h
      refine ⟨_, _, .push _ _, h, fun q _ hin => ?_⟩
      rw [hs] at hin
      obtain hsame | hin := List.suffix_cons_iff.mp hin
      · exact .inr ⟨(List.cons.inj hsame).2.symm, rfl⟩
      · exact .inl hin
    have hrepeat : ∀ start least most, GoesOn n items
        (do readSequence n false (← readRepeat start least most items)) := fun _ _ _ =>
      .bind (readRepeat_stopsAt _ _ _ _) fun hreads => .sequence (readRepeat_grows hreads)
    refine GoesOn.continues (.ite (fun _ => ?_) fun _ => ?_) hs hdollar h
    · exact .bind (readEscape_stopsAt _) fun _ => .sequence (.push _ _)
    split
    · exact .bind (readSet_stopsAt _) fun _ => .sequence (.push _ _)
    · exact hrepeat _ 0 (some 1)
    · exact hrepeat _ 0 none
    · exact hrepeat _ 1 none
    · refine .bind readBounds_stopsAt fun {_ bounds _} _ => ?_
      cases bounds with
      | none => exact .sequence (.push _ _)
      | some bounds => exact hrepeat _ bounds.1 bounds.2
    · exact .sequence (.push _ _)
    · exact .sequence (.push _ _)
    · exact .sequence (.push _ _)
    · refine .bind (readParenthesis_stopsAt _ _ _) fun {_ item _} _ => ?_
      cases item with
      | none => exact .sequence (.same _)
      | some item => exact .sequence (.push _ _)
    · exact .sequence (.push _ _)

theorem Grows.getLast? {place : Anchor} (h : Grows items items')
    (hfirst : items.getLast? = some (.anchor place)) : items'.getLast? = some (.anchor place) := by
  cases h with
  | same => exact hfirst
  | push item items =>
    rw [List.getLast?_cons, hfirst]
    rfl
  | again item repetition before hitem =>
    cases before with
    | nil => exact absurd (Option.some.inj hfirst) (hitem place)
    | cons next before =>
      rw [List.getLast?_cons_cons] at hfirst ⊢
      exact hfirst

theorem Node.unpacked_anchor (place : Anchor) : (Node.anchor place).unpacked = [.anchor place] :=
  rfl

theorem head?_unpacked {place : Anchor} (h : items.getLast? = some (.anchor place)) :
    (items.reverse.flatMap Node.unpacked).head? = some (.anchor place) := by
  obtain ⟨before, rfl⟩ := List.getLast?_eq_some_iff.mp h
  rw [List.reverse_append, List.reverse_singleton, List.singleton_append, List.flatMap_cons,
    Node.unpacked_anchor, List.singleton_append, List.head?_cons]

/-- The anchor that a sequence begins with stays where it is. -/
theorem readSequence_head {place : Anchor} (h : Reads (readSequence n false items) s read s')
    (hfirst : items.getLast? = some (.anchor place)) : read.head? = some (.anchor place) := by
  induction n generalizing items s with
  | zero =>
    obtain ⟨rfl, -⟩ := reads_pure_iff.mp h
    exact head?_unpacked hfirst
  | succ n ih =>
    obtain ⟨-, rfl⟩ | ⟨middle, items', hgrows, hmore, -⟩ := readSequence_cases h
    · exact head?_unpacked hfirst
    · exact ih hmore (hgrows.getLast? hfirst)

/-- At the end of a pattern a sequence ends. -/
theorem readSequence_nil (hnil : s.rest = []) (h : Reads (readSequence n false items) s read s') :
    s = s' ∧ read = items.reverse.flatMap Node.unpacked := by
  cases n with
  | zero =>
    obtain ⟨rfl, rfl⟩ := reads_pure_iff.mp h
    exact ⟨rfl, rfl⟩
  | succ n =>
    rw [readSequence, reads_tell_bind_iff, reads_peek_bind_iff, hnil] at h
    obtain ⟨rfl, rfl⟩ := reads_pure_iff.mp h
    exact ⟨rfl, rfl⟩

/-- A sequence that takes the last piece of a pattern ends with it. -/
theorem readSequence_last {p : Piece} (hp : p.isBare '$') (hin : [p] <:+ s.rest)
    (h : Reads (readSequence n false items) s read s') :
    [p] <:+ s'.rest ∨ s'.rest = [] ∧ ∃ before, read = before ++ [.anchor .lineEnd] := by
  induction n generalizing items s with
  | zero =>
    obtain ⟨-, rfl⟩ := reads_pure_iff.mp h
    exact .inl hin
  | succ n ih =>
    obtain ⟨rfl, -⟩ | ⟨middle, items', -, hmore, hstops⟩ := readSequence_cases h
    · exact .inl hin
    · obtain hin | ⟨hnil, rfl⟩ := hstops p hp hin
      · exact ih hin hmore
      · obtain ⟨rfl, rfl⟩ := readSequence_nil hnil hmore
        refine .inr ⟨hnil, items.reverse.flatMap Node.unpacked, ?_⟩
        rw [List.reverse_cons, List.flatMap_append, List.flatMap_singleton, Node.unpacked_anchor]

/-- The anchor in front of a pattern is its first item. -/
theorem reads_lineStart {i : Nat} {rest : List Piece}
    (h : Reads (readSequence (n + 1) false items) { s with rest := ⟨i, false, '^'⟩ :: rest } read
      s') :
    Reads (readSequence n false (.anchor .lineStart :: items)) { s with rest := rest } read s' :=
  h

variable {alternatives : List (List Node)}

/-- There is one alternative, or a bar behind the first of several. -/
theorem readAlternatives_cases (h : Reads (readAlternatives (n + 1) false) s alternatives s') :
    ∃ first middle, Reads (readSequence n false []) s first middle ∧
      ((alternatives = [first] ∧ middle = s') ∨ ∃ bar after others, bar.isBare '|' ∧
        middle.rest = bar :: after.rest ∧ Reads (readAlternatives n false) after others s' ∧
          alternatives = first :: others) := by
  rw [readAlternatives] at h
  obtain ⟨first, middle, hfirst, h⟩ := reads_bind_iff.mp h
  obtain ⟨more, after, haccept, hmore⟩ := reads_bind_iff.mp h
  refine ⟨first, middle, hfirst, ?_⟩
  obtain ⟨rfl, bar, hbar, hrest⟩ | ⟨rfl, rfl⟩ := reads_accept haccept
  · obtain ⟨others, _, hothers, hpure⟩ := reads_bind_iff.mp hmore
    obtain ⟨rfl, rfl⟩ := reads_pure_iff.mp hpure
    exact .inr ⟨bar, after, others, hbar, hrest, hothers, rfl⟩
  · obtain ⟨rfl, rfl⟩ := reads_pure_iff.mp hmore
    exact .inl ⟨rfl, rfl⟩

/-- The last alternative ends with the last piece. -/
theorem readAlternatives_last {p : Piece} (hp : p.isBare '$') (hin : [p] <:+ s.rest)
    (h : Reads (readAlternatives n false) s alternatives s') (hnil : s'.rest = []) :
    ∃ others before, alternatives = others ++ [before ++ [.anchor .lineEnd]] := by
  induction n generalizing s alternatives with
  | zero =>
    obtain ⟨-, rfl⟩ := reads_pure_iff.mp h
    rw [hnil] at hin
    exact absurd (List.suffix_nil.mp hin) (List.cons_ne_nil _ _)
  | succ n ih =>
    obtain ⟨first, middle, hfirst, hmore⟩ := readAlternatives_cases h
    have hmiddle := readSequence_last hp hin hfirst
    obtain ⟨rfl, rfl⟩ | ⟨bar, after, others, hbar, hrest, hothers, rfl⟩ := hmore
    · obtain hin | ⟨-, before, rfl⟩ := hmiddle
      · rw [hnil, List.suffix_nil] at hin
        cases hin
      · exact ⟨[], before, rfl⟩
    · obtain hin | ⟨hend, -⟩ := hmiddle
      · have hother : ¬ bar.isBare '$' := fun hdollar =>
          absurd (Piece.eq_of_isBare hbar hdollar) (by decide)
        rw [hrest] at hin
        obtain ⟨more, before, rfl⟩ := ih (suffix_of_not_isBare hp hother hin) hothers
        exact ⟨first :: more, before, rfl⟩
      · rw [hend] at hrest
        cases hrest

/-- The first alternative begins with the anchor that the pattern begins with. -/
theorem readAlternatives_first {i : Nat} {rest : List Piece}
    (h : Reads (readAlternatives (n + 2) false) { s with rest := ⟨i, false, '^'⟩ :: rest }
      alternatives s') :
    ∃ before others, alternatives = (.anchor .lineStart :: before) :: others := by
  obtain ⟨first, middle, hfirst, hmore⟩ := readAlternatives_cases h
  have hhead := readSequence_head (reads_lineStart hfirst) rfl
  obtain ⟨before, rfl⟩ := List.head?_eq_some_iff.mp hhead
  obtain ⟨rfl, -⟩ | ⟨-, -, others, -, -, -, rfl⟩ := hmore
  · exact ⟨before, [], rfl⟩
  · exact ⟨before, others, rfl⟩

/-- There is one alternative only, if nothing follows the first. -/
theorem readAlternatives_single
    (hall : ∀ {read middle}, Reads (readSequence n false []) s read middle → middle.rest = [])
    (h : Reads (readAlternatives (n + 1) false) s alternatives s') :
    ∃ items, alternatives = [items] := by
  obtain ⟨first, middle, hfirst, ⟨rfl, -⟩ | ⟨bar, after, -, -, hrest, -⟩⟩ :=
    readAlternatives_cases h
  · exact ⟨first, rfl⟩
  · rw [hall hfirst] at hrest
    cases hrest

end Morphotactics.Pattern
