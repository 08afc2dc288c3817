import Morphotactics.Proofs.Pattern.Mirrored

/-! The two anchors that an operand is joined with, and what is read between them. The last piece of
a pattern is left to the outermost items. -/
namespace Morphotactics.Pattern

open Reader

variable {α β : Type}

/-- In a reading of less than `size` pieces, the last that the reader takes is a bare `mark`. -/
def Closes (size : Nat) (mark : Char) (m : Reader α) : Prop :=
  ∀ ⦃s a s'⦄, s.rest.length < size → Reads m s a s' →
    ∃ p, p.isBare mark ∧ p :: s'.rest <:+ s.rest

namespace Closes

variable {size : Nat} {mark : Char} {m n : Reader α} {f : α → Reader β}

theorem zero : Closes 0 mark m :=
  fun _ _ _ hsize => absurd hsize (Nat.not_lt_zero _)

theorem throw (fault : Fault) : Closes size mark (throw fault : Reader α) :=
  fun _ _ _ _ h => absurd h not_reads_throw

theorem fail (problem : Problem) (back : Nat) : Closes size mark (fail problem back : Reader α) :=
  fun _ _ _ _ h => absurd h not_reads_fail

theorem fail_bind {f : PUnit → Reader β} (problem : Problem) (back : Nat) :
    Closes size mark (Reader.fail problem back >>= f) :=
  fun _ _ _ _ h => absurd h not_reads_fail_bind

theorem ite {p : Prop} [Decidable p] (hpos : p → Closes size mark m)
    (hneg : ¬ p → Closes size mark n) : Closes size mark (if p then m else n) := by
  split_ifs with h
  · exact hpos h
  · exact hneg h

theorem after {m' : Reader α} (h : Mirrors 0 m' m) (hnext : ∀ a, Closes size mark (f a)) :
    Closes size mark (m >>= f) := by
  intro s b s' hsize hreads
  obtain ⟨a, middle, hfirst, hsecond⟩ := reads_bind_iff.mp hreads
  have hdrops := h.drops hfirst
  obtain ⟨p, hp, hrest⟩ := hnext a (hdrops.length_le.trans_lt hsize) hsecond
  exact ⟨p, hp, hrest.trans hdrops⟩

theorem get_bind {f : Reading → Reader β} (h : ∀ s, Closes (s.rest.length + 1) mark (f s)) :
    Closes size mark (get >>= f) :=
  fun s _ _ _ hreads => h s (Nat.lt_succ_self _) (reads_get_bind_iff.mp hreads)

theorem peek_bind {f : Option Piece → Reader β} (h : ∀ p?, Closes size mark (f p?)) :
    Closes size mark (peek >>= f) :=
  fun _ _ _ hsize hreads => h _ hsize (reads_peek_bind_iff.mp hreads)

theorem modify_bind {change : Reading → Reading} {f : PUnit → Reader β}
    (hrest : ∀ s, (change s).rest = s.rest) (h : ∀ u, Closes size mark (f u)) :
    Closes size mark (modify change >>= f) := by
  intro s b s' hsize hreads
  rw [reads_modify_bind_iff] at hreads
  rw [← hrest s] at hsize ⊢
  exact h () hsize hreads

theorem before (h : Closes size mark m)
    (hnext : ∀ {a s b s'}, Reads (f a) s b s' → s'.rest = s.rest) :
    Closes size mark (m >>= f) := by
  intro s b s' hsize hreads
  obtain ⟨a, middle, hfirst, hsecond⟩ := reads_bind_iff.mp hreads
  rw [hnext hsecond]
  exact h hsize hfirst

theorem next_bind {f : Option Piece → Reader β} (hnone : Closes size mark (f none))
    (hsome : ∀ p, (p.isBare mark ∧ ∀ {s b s'}, Reads (f (some p)) s b s' → s'.rest = s.rest) ∨
      Closes (size - 1) mark (f (some p))) : Closes size mark (next >>= f) := by
  intro s b s' hsize hreads
  rw [reads_next_bind_iff] at hreads
  cases hs : s.rest with
  | nil =>
    rw [hs] at hreads hsize
    exact hnone hsize hreads
  | cons q rest =>
    rw [hs] at hreads hsize
    obtain ⟨hq, hrest⟩ | hmore := hsome q
    · exact ⟨q, hq, hrest hreads ▸ List.suffix_refl _⟩
    · rw [List.length_cons] at hsize
      have hshort : rest.length < size - 1 := by omega
      obtain ⟨p, hp, hrest⟩ := hmore hshort hreads
      exact ⟨p, hp, hrest.trans (List.suffix_cons _ _)⟩

theorem stopsAt {other : Char} (h : ∀ size, Closes size mark m) (hne : mark ≠ other) :
    StopsAt other [] m := by
  intro s a s' q hq hreads hin
  obtain ⟨p, hp, hfront⟩ := h _ (Nat.lt_succ_self _) hreads
  have hlast := List.suffix_of_suffix_length_le hin hfront (Nat.le_add_left 1 _)
  obtain hsame | hlast := List.suffix_cons_iff.mp hlast
  · obtain ⟨rfl, -⟩ := List.cons.inj hsame
    exact absurd (Piece.eq_of_isBare hp hq) hne
  · exact hlast

end Closes

theorem unmoved_pure {a : α} {s s' : Reading} {b : α} (h : Reads (pure a) s b s') :
    s'.rest = s.rest :=
  (reads_pure_iff.mp h).2 ▸ rfl

section Closers

variable {size : Nat}

theorem reads_closeParenthesis {start : Nat} {s s' : Reading} {u : Unit}
    (h : Reads (closeParenthesis start) s u s') : ∃ p, p.isBare ')' ∧ s.rest = p :: s'.rest := by
  unfold closeParenthesis at h
  obtain ⟨taken, middle, haccept, hnext⟩ := reads_bind_iff.mp h
  obtain ⟨rfl, p, hp, hrest⟩ | ⟨rfl, -⟩ := reads_accept haccept
  · obtain ⟨-, rfl⟩ := reads_pure_iff.mp hnext
    exact ⟨p, hp, hrest⟩
  · exact absurd hnext not_reads_throw

theorem closeParenthesis_closes (start : Nat) : Closes size ')' (closeParenthesis start) := by
  intro s a s' _ hreads
  obtain ⟨p, hp, hrest⟩ := reads_closeParenthesis hreads
  exact ⟨p, hp, hrest ▸ List.suffix_refl _⟩

theorem skipComment_closes (start : Nat) {n : Nat} (hn : size ≤ n) :
    Closes size ')' (skipComment start n) := by
  induction n generalizing size with
  | zero => exact Nat.le_zero.mp hn ▸ .zero
  | succ n ih =>
    rw [skipComment]
    refine .next_bind (.throw _) fun p => ?_
    dsimp only
    split_ifs with hp
    · exact .inl ⟨hp, unmoved_pure⟩
    · exact .inr (ih (by omega))

theorem takeUntil_closes (mark : Char) (what : String) :
    Closes size mark (takeUntil mark what) := by
  have hgo : ∀ n size name, size ≤ n → Closes size mark (takeUntil.go mark what n name) := by
    intro n
    induction n with
    | zero => exact fun size name hn => Nat.le_zero.mp hn ▸ .zero
    | succ n ih =>
      intro size name hn
      rw [takeUntil.go]
      refine .next_bind (.ite (fun _ => .fail _ _) fun _ => .fail _ _) fun p => ?_
      dsimp only
      split_ifs with hp
      · exact .inr (.fail _ _)
      · exact .inl ⟨hp, unmoved_pure⟩
      · exact .inr (ih _ _ (by omega))
  exact .get_bind fun s => hgo _ _ [] le_rfl

theorem readMembers_closes (start : Nat) {n : Nat} (hn : size ≤ n) (members : List Member) :
    Closes size ']' (readMembers start n members) := by
  induction n generalizing size members with
  | zero => exact Nat.le_zero.mp hn ▸ .zero
  | succ n ih =>
    rw [readMembers]
    refine .next_bind (.throw _) fun p => ?_
    dsimp only
    split_ifs with hp
    · exact .inl ⟨(Bool.and_eq_true_iff.mp hp).1, unmoved_pure⟩
    · refine .inr (.after (readMember_mirrors ⟨rfl, rfl⟩) fun low => ?_)
      refine .after .accept fun ranged => .ite (fun _ => ?_) fun _ => ih (by omega) _
      refine .next_bind (.throw _) fun q => ?_
      dsimp only
      split_ifs with hq
      · exact .inl ⟨hq, unmoved_pure⟩
      · refine .inr (.after (readMember_mirrors ⟨rfl, rfl⟩) fun high => ?_)
        split
        · exact .ite (fun _ => .fail _ _) fun _ => ih (by omega) _
        · exact .fail _ _

theorem skipComment_stopsAt (start : Nat) :
    StopsAt '$' [] (do skipComment start ((← get).rest.length + 1)) := by
  have hclose : ')' ≠ '$' := by decide
  exact Closes.stopsAt (fun _ => .get_bind fun s => skipComment_closes start le_rfl) hclose

theorem readSet_stopsAt (start : Nat) : StopsAt '$' [] (readSet start) := by
  have hclose : ']' ≠ '$' := by decide
  unfold readSet
  refine Closes.stopsAt (fun size => .after .accept fun negated => .get_bind fun s => ?_) hclose
  exact (readMembers_closes start le_rfl []).before unmoved_pure

theorem readHexEscape_stopsAt (letter : Char) (count : Nat) :
    StopsAt '$' [] (readHexEscape letter count) := by
  unfold readHexEscape
  refine (StopsAt.takeWhile (by decide) _).bind fun spelled => ?_
  refine .ite (fun _ => .fail _ _) fun _ => ?_
  exact .ite (fun _ => .fail _ _) fun _ => .pure _

theorem readNamedEscape_stopsAt : StopsAt '$' [] readNamedEscape := by
  have hname := Closes.stopsAt (fun _ => takeUntil_closes '}' "character name")
    (by decide : '}' ≠ '$')
  unfold readNamedEscape
  refine (StopsAt.accept (by decide)).bind fun _ => .ite (fun _ => ?_) fun _ => .fail _ _
  refine hname.bind fun name => ?_
  split
  · exact .pure _
  · exact .fail _ _

theorem readCodeEscape_stopsAt (letter : Char) : StopsAt '$' [] (readCodeEscape letter) := by
  unfold readCodeEscape
  refine .ite (fun _ => readHexEscape_stopsAt _ _) fun _ => ?_
  refine .ite (fun _ => readHexEscape_stopsAt _ _) fun _ => ?_
  refine .ite (fun _ => readHexEscape_stopsAt _ _) fun _ => ?_
  refine .ite (fun _ => readNamedEscape_stopsAt) fun _ => ?_
  exact .ite (fun _ => .fail _ _) fun _ => .pure _

theorem octalCode_stopsAt (spelled : Text) : StopsAt '$' [] (octalCode spelled) := by
  unfold octalCode
  exact .ite (fun _ => .fail _ _) fun _ => .pure _

theorem checkLookBehind_stopsAt (index : Nat) : StopsAt '$' [] (checkLookBehind index) := by
  unfold checkLookBehind
  refine StopsAt.get_bind fun s => ?_
  split
  · exact .pure _
  · refine .ite (fun _ => .fail _ _) fun _ => ?_
    exact .ite (fun _ => .fail _ _) fun _ => .pure _

theorem readReference_stopsAt (index back : Nat) :
    StopsAt '$' [] (readReference index back) := by
  unfold readReference
  refine StopsAt.get_bind fun s => ?_
  refine .ite (fun _ => .fail _ _) fun _ => ?_
  refine .ite (fun _ => .fail _ _) fun _ => ?_
  exact (checkLookBehind_stopsAt _).bind fun _ => .pure _

theorem readDigitEscape_stopsAt (first : Char) : StopsAt '$' [] (readDigitEscape first) := by
  unfold readDigitEscape
  refine (StopsAt.takeWhile (by decide) _).bind fun spelled => ?_
  split
  · refine .ite (fun _ => (StopsAt.takeWhile (by decide) _).bind fun third => ?_) fun _ =>
      (StopsAt.pure _).bind fun third => ?_
    all_goals
      refine .ite (fun _ => readReference_stopsAt _ _) fun _ => ?_
      exact (octalCode_stopsAt _).bind fun _ => .pure _
  · exact readReference_stopsAt _ _

theorem readEscape_stopsAt (letter : Char) : StopsAt '$' [] (readEscape letter) := by
  unfold readEscape
  split
  · exact .pure _
  · exact .pure _
  · exact .pure _
  · refine .ite (fun _ => ?_) fun _ => ?_
    · exact (StopsAt.takeWhile (by decide) _).bind fun _ => .pure _
    · refine .ite (fun _ => readDigitEscape_stopsAt _) fun _ => ?_
      exact (readCodeEscape_stopsAt _).bind fun _ => .pure _

theorem readCount_stopsAt (spelled : Text) : StopsAt '$' [] (readCount spelled) := by
  unfold readCount
  split
  · exact .ite (fun _ => .throw _) fun _ => .pure _
  · exact .throw _

theorem readBoundValues_stopsAt (here : Nat) (low high : Text) :
    StopsAt '$' [] (readBoundValues here low high) := by
  unfold readBoundValues
  dsimp only
  refine .ite (fun _ => (StopsAt.pure _).bind fun least => ?_) fun _ =>
    (readCount_stopsAt _).bind fun least => ?_
  all_goals
    refine .ite (fun _ => (StopsAt.pure _).bind fun most => ?_) fun _ =>
      ((readCount_stopsAt _).map _).bind fun most => ?_
  all_goals exact .ite (fun _ => .throw_bind _) fun _ => .pure _

theorem readBounds_stopsAt : StopsAt '$' [] readBounds := by
  intro s bounds s' p hp hreads hin
  rw [reads_readBounds_iff] at hreads
  split_ifs at hreads
  · exact hreads.2 ▸ hin
  · obtain ⟨texts, middle, htexts, hreads⟩ := hreads
    split_ifs at hreads
    · have htextsin := readBoundTexts_stopsAt (by decide) (by decide) (by decide) hp htexts hin
      exact readBoundValues_stopsAt _ _ _ hp hreads htextsin
    · exact hreads.2 ▸ hin

theorem readGroupName_stopsAt {mark : Char} (hmark : mark ≠ '$') :
    StopsAt '$' [] (readGroupName mark) := by
  unfold readGroupName
  refine (Closes.stopsAt (fun _ => takeUntil_closes mark _) hmark).bind fun name => ?_
  exact .ite (fun _ => .pure _) fun _ => .fail _ _

theorem readNamedReference_stopsAt : StopsAt '$' [] readNamedReference := by
  unfold readNamedReference
  refine (readGroupName_stopsAt (by decide)).bind fun name => StopsAt.get_bind fun s => ?_
  split
  · exact .fail _ _
  · refine .ite (fun _ => .fail_bind _ _) fun _ => ?_
    exact (checkLookBehind_stopsAt _).bind fun _ => .pure _

theorem readOptionPiece_stopsAt {marks : List Char} (hmarks : marks.elem '$' = false)
    (missing : String) : StopsAt '$' [] (readOptionPiece marks missing) := by
  unfold readOptionPiece
  refine .next_bind (fun p hp s c s' hreads => ?_) fun p => ?_
  · obtain ⟨-, hchar⟩ := Piece.isBare_iff.mp hp
    have hletter : isOptionLetter '$' = false := by decide
    simp only [hchar, hmarks, hletter, Bool.or_false, Bool.and_false, Bool.false_eq_true,
      if_false] at hreads
    split_ifs at hreads <;> exact not_reads_fail hreads
  · refine .ite (fun _ => .pure _) fun _ => ?_
    exact .ite (fun _ => .fail _ _) fun _ => .fail _ _

theorem readOptionsOn_stopsAt (n : Nat) (letter : Char) (letters : List Char) :
    StopsAt '$' [] (readOptionsOn n letter letters) := by
  induction n generalizing letter letters with
  | zero => exact .pure _
  | succ n ih =>
    rw [readOptionsOn]
    dsimp only
    refine .ite (fun _ => .fail_bind _ _) fun _ => ?_
    refine .ite (fun _ => .fail_bind _ _) fun _ => ?_
    refine (readOptionPiece_stopsAt (by decide) _).bind fun c => ?_
    exact .ite (fun _ => ih _ _) fun _ => .pure _

theorem readOptionsOff_stopsAt (n : Nat) (letter : Char) (letters : List Char) :
    StopsAt '$' [] (readOptionsOff n letter letters) := by
  induction n generalizing letter letters with
  | zero => exact .pure _
  | succ n ih =>
    rw [readOptionsOff]
    dsimp only
    refine .ite (fun _ => .fail_bind _ _) fun _ => ?_
    refine (readOptionPiece_stopsAt (by decide) _).bind fun c => ?_
    exact .ite (fun _ => .pure _) fun _ => ih _ _

theorem readOptions_stopsAt (start : Nat) (first : Char) :
    StopsAt '$' [] (readOptions start first) := by
  unfold readOptions
  refine StopsAt.get_bind fun s => ?_
  dsimp only
  refine .ite (fun _ => (StopsAt.pure _).bind fun i => ?_) fun _ =>
    (readOptionsOn_stopsAt _ _ _).bind fun i => ?_
  all_goals
    refine .ite (fun _ => .throw_bind _) fun _ => ?_
    refine .ite (fun _ => .fail_bind _ _) fun _ => ?_
    refine .ite (fun _ => (readOptionPiece_stopsAt (by decide) _).bind fun c =>
      (readOptionsOff_stopsAt _ _ _).bind fun off => ?_) fun _ =>
        (StopsAt.pure _).bind fun off => ?_
  all_goals
    refine .ite (fun _ => .fail_bind _ _) fun _ => ?_
    exact .ite (fun _ => .fail_bind _ _) fun _ => .pure _

theorem readBody_stopsAt (n : Nat) (verbose : Bool) (start : Nat) :
    StopsAt '$' [] (readBody n verbose start) := by
  cases n with
  | zero => exact .pure _
  | succ n =>
    have hclose : ')' ≠ '$' := by decide
    rw [readBody]
    refine Closes.stopsAt (fun size => ?_) hclose
    refine .after ((mirrorsTo n n).alternatives (by omega) (by omega) _) fun _ => ?_
    exact (closeParenthesis_closes _).before unmoved_pure

theorem openGroup_stopsAt (name : Option Text) : StopsAt '$' [] (openGroup name) := by
  rw [openGroup_eq]
  refine StopsAt.get_bind fun s => ?_
  cases name with
  | none => exact StopsAt.bind (.modify fun _ => rfl) fun _ => .pure _
  | some name =>
    dsimp only
    split
    · exact .fail _ _
    · exact StopsAt.bind (.modify fun _ => rfl) fun _ => .pure _

theorem readCapture_stopsAt (n : Nat) (verbose : Bool) (start : Nat) (name : Option Text) :
    StopsAt '$' [] (readCapture n verbose start name) := by
  cases n with
  | zero => exact .pure _
  | succ n =>
    rw [readCapture]
    refine (openGroup_stopsAt name).bind fun index => (readBody_stopsAt _ _ _).bind fun body => ?_
    exact StopsAt.bind (.modify fun _ => rfl) fun _ => .pure _

theorem readParenthesis_stopsAt (n : Nat) (verbose : Bool) (start : Nat) :
    StopsAt '$' [] (readParenthesis n verbose start) := by
  cases n with
  | zero => exact .pure _
  | succ n =>
    have hcapture : ∀ name,
        StopsAt '$' [] (do return some (← readCapture n verbose start name)) := fun name =>
      (readCapture_stopsAt _ _ _ _).bind fun _ => .pure _
    have hbody : ∀ inner (change : Node → Node),
        StopsAt '$' [] (do return some (change (← readBody n inner start))) := fun inner change =>
      (readBody_stopsAt _ _ _).bind fun _ => .pure _
    have hclose : ')' ≠ '$' := by decide
    rw [readParenthesis]
    refine (StopsAt.accept (by decide)).bind fun asked => .ite (fun _ => hcapture _) fun _ => ?_
    refine .next_bind (fun p hp s item s' hreads => ?_) fun p => ?_
    · obtain ⟨hescaped, hchar⟩ := Piece.isBare_iff.mp hp
      simp only [hescaped, hchar] at hreads
      exact not_reads_fail hreads
    refine .ite (fun _ => .fail_bind _ _) fun _ => ?_
    split
    · refine (StopsAt.accept (by decide)).bind fun named => .ite (fun _ => ?_) fun _ => ?_
      · exact (readGroupName_stopsAt (by decide)).bind fun _ => hcapture _
      refine (StopsAt.accept (by decide)).bind fun again => .ite (fun _ => ?_) fun _ => ?_
      · exact readNamedReference_stopsAt.bind fun _ => .pure _
      · exact .next_bind (fun _ _ _ _ _ => not_reads_fail) fun _ => .fail _ _
    · exact hbody _ _
    · exact hbody _ _
    · exact hbody _ _
    · exact hbody _ _
    · exact (skipComment_stopsAt _).bind fun _ => .pure _
    · refine .next_bind (fun q hq s item s' hreads => ?_) fun q => ?_
      · have hother : ∀ c, '$' ≠ c → q.isBare c = false := fun c hc =>
          Bool.eq_false_iff.mpr fun hbare => hc (Piece.eq_of_isBare hq hbare)
        simp only [hother '=' (by decide), hother '!' (by decide)] at hreads
        exact not_reads_fail hreads
      · refine .ite (fun _ => Closes.stopsAt (fun size => ?_) hclose) fun _ => .fail _ _
        refine .get_bind fun s => .modify_bind (fun _ => rfl) fun _ => ?_
        refine .after ((mirrorsTo n n).alternatives (by omega) (by omega) _) fun _ => ?_
        refine .modify_bind (fun _ => rfl) fun _ => ?_
        refine (closeParenthesis_closes _).before fun hreads => ?_
        rw [reads_get_bind_iff] at hreads
        exact unmoved_pure hreads
    · refine Closes.stopsAt (fun size => ?_) hclose
      refine .after readConditionGroup_mirrors fun index => ?_
      refine .after (checkLookBehind_mirrors _) fun _ => ?_
      refine .after ((mirrorsTo n n).sequence (by omega) (by omega) _ _) fun present => ?_
      have hlast : ∀ absent : List Node, Closes size ')' (do
          let absent ← pure absent
          closeParenthesis start
          return some (Node.ifGroup index (.ofItems present) (.ofItems absent))) := by
        intro absent
        rw [pure_bind]
        exact (closeParenthesis_closes _).before unmoved_pure
      refine .after .accept fun taken => .ite (fun _ => ?_) fun _ => hlast _
      refine .after ((mirrorsTo n n).sequence (by omega) (by omega) _ _) fun absent => ?_
      exact .peek_bind fun _ => .ite (fun _ => .fail_bind _ _) fun _ => hlast _
    · refine .ite (fun _ => ?_) fun _ => .fail _ _
      exact (readOptions_stopsAt _ _).bind fun _ => hbody _ _

theorem readRepeat_stopsAt (start least : Nat) (most : Option Nat) (items : List Node) :
    StopsAt '$' [] (readRepeat start least most items) := by
  unfold readRepeat
  split
  · exact .throw _
  · exact .throw _
  · exact .throw _
  · refine (StopsAt.accept (by decide)).bind fun lazy => .ite (fun _ => ?_) fun _ => ?_
    · exact (StopsAt.pure _).bind fun _ => .pure _
    · exact (StopsAt.accept (by decide)).bind fun _ => .pure _

end Closers

end Morphotactics.Pattern
