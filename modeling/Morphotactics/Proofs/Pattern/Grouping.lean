import Morphotactics.Proofs.Pattern.Cutting
import Morphotactics.Proofs.Pattern.Outermost

/-! Operands in the group that ties them to one end of a text. An operand that is a pattern by itself
fills the group; another one may close it and go on with alternatives outside of it. -/
namespace Morphotactics.Pattern

open Reader

variable {n : Nat} {items read : List Node} {alternatives : List (List Node)} {s s' t t' : Reading}

/-- A group that captures nothing is read as an item of its own. -/
theorem reads_group {i j k : Nat} {rest : List Piece}
    (h : Reads (readSequence (n + 2) false items)
      { s with rest := ⟨i, false, '('⟩ :: ⟨j, false, '?'⟩ :: ⟨k, false, ':'⟩ :: rest } read s') :
    ∃ body middle, Reads (readBody n false i) { s with rest := rest } body middle ∧
      Reads (readSequence (n + 1) false (.group none {} body :: items)) middle read s' := by
  rw [readSequence, reads_tell_bind_iff, reads_peek_bind_iff, List.head?_cons] at h
  have hopen : (Piece.isBare ⟨i, false, '('⟩ '|' || Piece.isBare ⟨i, false, '('⟩ ')') = false := rfl
  simp only [hopen, Bool.false_and, Bool.false_eq_true, if_false, reads_next_bind_iff] at h
  obtain ⟨item, middle, hitem, hmore⟩ := reads_bind_iff.mp h
  have hgroup : Reads (do return some (.group none {} (← readBody n false i)))
      { s with rest := rest } item middle := hitem
  obtain ⟨body, _, hbody, hpure⟩ := reads_bind_iff.mp hgroup
  obtain ⟨rfl, rfl⟩ := reads_pure_iff.mp hpure
  exact ⟨body, _, hbody, hmore⟩

/-- A group ends at the parenthesis behind its contents, if these can be read as a whole. -/
theorem readBody_ends {depth start : Nat} {verbose : Bool} {close : Piece} {more : List Piece}
    {body : Node} (hown : Reads (readAlternatives depth verbose) s alternatives s')
    (hnil : s'.rest = []) (hdepth : 5 * s.rest.length + 2 ≤ depth) (hn : 5 * s.rest.length + 2 ≤ n)
    (hext : s.Extends close more t) (hmore : ∀ p ∈ more, ¬ p.isBare ')')
    (h : Reads (readBody (n + 1) verbose start) t body t') : t'.rest = more := by
  rw [readBody] at h
  obtain ⟨inner, middle, hinner, h⟩ := reads_bind_iff.mp h
  obtain ⟨_, _, hclose, h⟩ := reads_bind_iff.mp h
  obtain ⟨-, rfl⟩ := reads_pure_iff.mp h
  obtain ⟨p, hp, hrest⟩ := reads_closeParenthesis hclose
  have hmirrors : Mirrors (s.rest.length + 1) (readAlternatives depth verbose)
      (readAlternatives n verbose) := (mirrorsTo depth n).alternatives (by omega) (by omega) verbose
  by_cases hlong : more.length < middle.rest.length
  -- The parenthesis is still there, so that the contents are read as they are by themselves.
  · obtain ⟨s₁, hs₁, hext₁⟩ := hmirrors.mirrors hext (Nat.lt_succ_self _) hinner hlong
    obtain ⟨-, rfl⟩ := hown.unique hs₁
    obtain ⟨-, hend⟩ | ⟨q, rest, -, -, hq, -⟩ := hext₁.cases
    · exact (List.cons.inj (hrest.symm.trans hend)).2
    · rw [hnil] at hq
      cases hq
  -- It is not, and what is behind it has no other to close the group with.
  · have hshort : middle.rest.length ≤ (close :: more).length := by
      rw [List.length_cons]
      omega
    have hlast := List.suffix_of_suffix_length_le (hmirrors.drops hinner) hext.suffix hshort
    obtain hsame | hlast := List.suffix_cons_iff.mp hlast
    · rw [hsame, List.length_cons] at hlong
      omega
    · rw [hrest] at hlast
      exact absurd hp (hmore p (hlast.subset (List.mem_cons_self ..)))

/-- What may stand behind the group: nothing, or the anchor of the end. -/
def IsTail (more : List Piece) : Prop :=
  more = [] ∨ ∃ i, more = [⟨i, false, '$'⟩]

/-- Nothing is left behind the tail of a pattern. -/
theorem readSequence_ends (hmore : IsTail s.rest)
    (h : Reads (readSequence (n + 1) false items) s read s') : s'.rest = [] := by
  obtain hnil | ⟨i, hlast⟩ := hmore
  · obtain ⟨rfl, -⟩ := readSequence_nil hnil h
    exact hnil
  · obtain ⟨rest, finish, widths, names, behind, awaited⟩ := s
    obtain rfl := hlast
    have hanchor : Reads (readSequence n false (.anchor .lineEnd :: items))
        ⟨[], finish, widths, names, behind, awaited⟩ read s' := h
    obtain ⟨rfl, -⟩ := readSequence_nil rfl hanchor
    rfl

/-- The alternatives that a pattern consists of at its outermost level. -/
def outerAlternatives (pattern : Text) : Except Fault (List (List Node)) := do
  let ps ← pieces 0 pattern
  (readAlternatives (5 * ps.length + 5) false).run' { rest := ps, finish := pattern.length }

/-- The alternatives that the anchor of an operand is no part of: it stands in the first of all, or in
the last. -/
def strays (side : Side) (operand : Text) : List (List Node) :=
  match side, outerAlternatives (anchored side operand) with
  | .opening, .ok alternatives => alternatives.tail
  | .closing, .ok alternatives => alternatives.dropLast
  | _, .error _ => []

/-- A pattern is read as a choice among its outermost alternatives, up to its end. -/
theorem exists_reads_of_read {pattern : Text} {node : Node} (h : Node.read pattern = .ok node) :
    ∃ ps alternatives s', Cut 0 pattern ps ∧ s'.rest = [] ∧
      Reads (readAlternatives (5 * ps.length + 5) false) { rest := ps, finish := pattern.length }
        alternatives s' ∧
      outerAlternatives pattern = .ok alternatives ∧ node = .ofItems (choice alternatives) := by
  unfold Node.read at h
  obtain ⟨ps, hps, h⟩ := bind_eq_ok_iff.mp h
  obtain ⟨⟨body, last⟩, hwhole, h⟩ := bind_eq_ok_iff.mp h
  obtain ⟨_, -, h⟩ := bind_eq_ok_iff.mp h
  obtain rfl := pure_eq_ok_iff.mp h
  have hreads : Reads (readWhole (5 * ps.length + 5)) { rest := ps, finish := pattern.length } body
      last := hwhole
  unfold readWhole at hreads
  obtain ⟨alternatives, middle, halternatives, hreads⟩ := reads_bind_iff.mp hreads
  rw [reads_peek_bind_iff] at hreads
  split_ifs at hreads with hrest
  · exact absurd hreads not_reads_fail_bind
  · obtain ⟨_, _, -, hreads⟩ := reads_bind_iff.mp hreads
    obtain ⟨rfl, -⟩ := reads_pure_iff.mp hreads
    have hnil : middle.rest = [] := by simpa using hrest
    have houter : outerAlternatives pattern = .ok alternatives := by
      unfold outerAlternatives
      exact bind_eq_ok_iff.mpr ⟨ps, hps, congrArg (Prod.fst <$> ·) halternatives⟩
    exact ⟨ps, alternatives, middle, cut_of_pieces hps, hnil, halternatives, houter, rfl⟩

theorem anchored_opening (operand : Text) :
    anchored .opening operand = '^' :: '(' :: '?' :: ':' :: (operand ++ [')']) := by
  unfold anchored
  rfl

theorem anchored_closing (operand : Text) :
    anchored .closing operand = '(' :: '?' :: ':' :: (operand ++ [')', '$']) := by
  unfold anchored
  dsimp only
  rw [List.append_assoc]
  rfl

theorem cut_opening {operand : Text} {ps : List Piece} (h : Cut 0 (anchored .opening operand) ps) :
    ∃ rest, Cut 4 (operand ++ [')']) rest ∧
      ps = ⟨0, false, '^'⟩ :: ⟨1, false, '('⟩ :: ⟨2, false, '?'⟩ :: ⟨3, false, ':'⟩ :: rest := by
  rw [anchored_opening] at h
  obtain ⟨_, rfl, h₁⟩ := h.exists_of_bare (by decide)
  obtain ⟨_, rfl, h₂⟩ := h₁.exists_of_bare (by decide)
  obtain ⟨_, rfl, h₃⟩ := h₂.exists_of_bare (by decide)
  obtain ⟨rest, rfl, h₄⟩ := h₃.exists_of_bare (by decide)
  exact ⟨rest, h₄, rfl⟩

theorem cut_closing {operand : Text} {ps : List Piece} (h : Cut 0 (anchored .closing operand) ps) :
    ∃ rest, Cut 3 (operand ++ [')', '$']) rest ∧
      ps = ⟨0, false, '('⟩ :: ⟨1, false, '?'⟩ :: ⟨2, false, ':'⟩ :: rest := by
  rw [anchored_closing] at h
  obtain ⟨_, rfl, h₁⟩ := h.exists_of_bare (by decide)
  obtain ⟨_, rfl, h₂⟩ := h₁.exists_of_bare (by decide)
  obtain ⟨rest, rfl, h₃⟩ := h₂.exists_of_bare (by decide)
  exact ⟨rest, h₃, rfl⟩

/-- The anchor is in one alternative, whatever the operand is. -/
theorem exists_tied_alternative {side : Side} {operand : Text} {node : Node}
    (h : Node.read (anchored side operand) = .ok node) :
    ∃ items, node = .ofItems (choice (match side with
      | .opening => (.anchor .lineStart :: items) :: strays side operand
      | .closing => strays side operand ++ [items ++ [.anchor .lineEnd]])) := by
  obtain ⟨ps, alternatives, s', hcut, hnil, hreads, houter, rfl⟩ := exists_reads_of_read h
  cases side with
  | opening =>
    obtain ⟨rest, -, rfl⟩ := cut_opening hcut
    obtain ⟨before, others, rfl⟩ :=
      readAlternatives_first (s := ⟨[], _, [], [], none, []⟩) hreads
    refine ⟨before, ?_⟩
    unfold strays
    rw [houter]
    rfl
  | closing =>
    obtain ⟨rest, hrest, rfl⟩ := cut_closing hcut
    obtain ⟨p, hp, hin⟩ := hrest.last (by decide) (by decide)
    have hlast : [p] <:+ ⟨0, false, '('⟩ :: ⟨1, false, '?'⟩ :: ⟨2, false, ':'⟩ :: rest :=
      hin.trans (List.suffix_append [_, _, _] rest)
    obtain ⟨others, before, rfl⟩ := readAlternatives_last hp hlast hreads hnil
    refine ⟨before, ?_⟩
    unfold strays
    rw [houter]
    dsimp only
    rw [List.dropLast_concat]

/-- Behind a group with an operand that is a pattern by itself there is nothing left to read. -/
theorem readSequence_enclosed {operand tail : Text} {own : Node} {i j k l finish : Nat}
    {rest : List Piece} (hown : Node.read operand = .ok own) (htail : tail = [] ∨ tail = ['$'])
    (hcut : Cut l (operand ++ ')' :: tail) rest) (hn : 5 * rest.length ≤ n)
    (h : Reads (readSequence (n + 3) false items)
      ⟨⟨i, false, '('⟩ :: ⟨j, false, '?'⟩ :: ⟨k, false, ':'⟩ :: rest, finish, [], [], none, []⟩
      read s') : s'.rest = [] := by
  obtain ⟨ps, alternatives, last, hps, hnil, hreads, -, -⟩ := exists_reads_of_read hown
  obtain ⟨qs, hqs, hsame⟩ := hps.shift l
  obtain ⟨closing, rfl, hclosing⟩ := hqs.of_append hcut
  obtain ⟨more, rfl, hmore⟩ := hclosing.exists_of_bare (by decide)
  have hend : IsTail more := by
    obtain rfl | rfl := htail
    · cases hmore
      exact .inl rfl
    · exact .inr ⟨_, hmore.eq_of_singleton (by decide)⟩
  have hother : ∀ p ∈ more, ¬ p.isBare ')' := by
    obtain rfl | ⟨m, rfl⟩ := hend
    · nofun
    · intro p hp
      obtain rfl := List.mem_singleton.mp hp
      exact Bool.false_ne_true
  obtain ⟨body, middle, hbody, hrest⟩ :=
    reads_group (s := ⟨[], finish, [], [], none, []⟩) h
  have hext : Reading.Extends ⟨l + operand.length, false, ')'⟩ more
      { rest := ps, finish := operand.length }
      ⟨qs ++ ⟨l + operand.length, false, ')'⟩ :: more, finish, [], [], none, []⟩ :=
    ⟨⟨rfl, rfl, rfl⟩, rfl, qs, hsame, rfl⟩
  have hlength := hsame.length_eq
  rw [List.length_append, List.length_cons] at hn
  have hmiddle : middle.rest = more := by
    refine readBody_ends hreads hnil ?_ ?_ hext hother hbody
    · dsimp only
      omega
    · dsimp only
      omega
  rw [← hmiddle] at hend
  exact readSequence_ends hend hrest

/-- A pattern by itself stays within the group that is put around it. -/
theorem strays_eq_nil {side : Side} {operand : Text} {node own : Node}
    (h : Node.read (anchored side operand) = .ok node) (hown : Node.read operand = .ok own) :
    strays side operand = [] := by
  obtain ⟨ps, alternatives, s', hcut, -, hreads, houter, -⟩ := exists_reads_of_read h
  suffices hsingle : ∃ items, alternatives = [items] by
    obtain ⟨items, rfl⟩ := hsingle
    unfold strays
    rw [houter]
    cases side <;> rfl
  cases side with
  | opening =>
    obtain ⟨rest, hrest, hps⟩ := cut_opening hcut
    have hdepth : 5 * ps.length + 5 = 5 * rest.length + 25 := by
      simp only [hps, List.length_cons]
      omega
    rw [hdepth, hps] at hreads
    refine readAlternatives_single (fun hsequence => ?_) hreads
    have hgroup := reads_lineStart (s := ⟨[], _, [], [], none, []⟩) hsequence
    exact readSequence_enclosed hown (.inl rfl) hrest (Nat.le_add_right _ 20) hgroup
  | closing =>
    obtain ⟨rest, hrest, hps⟩ := cut_closing hcut
    have hdepth : 5 * ps.length + 5 = 5 * rest.length + 20 := by
      simp only [hps, List.length_cons]
      omega
    rw [hdepth, hps] at hreads
    refine readAlternatives_single (fun hsequence => ?_) hreads
    exact readSequence_enclosed hown (.inr rfl) hrest (Nat.le_add_right _ 16) hsequence

end Morphotactics.Pattern
