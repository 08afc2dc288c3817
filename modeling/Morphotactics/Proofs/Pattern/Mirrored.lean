import Morphotactics.Proofs.Pattern.Mirroring

/-! What is read of a regular expression in front of a closing parenthesis is read in the same way
where the pattern ends instead. -/
namespace Morphotactics.Pattern

open Reader

section Parts

variable {α : Type} {size : Nat}

theorem readHexEscape_mirrors (letter : Char) (count : Nat) :
    Mirrors size (readHexEscape letter count) (readHexEscape letter count) := by
  unfold readHexEscape
  refine (Mirrors.takeWhile _ (.inr rfl)).bind fun spelled => ?_
  refine .ite (fun _ => .fail _ _) fun _ => ?_
  exact .ite (fun _ => .fail _ _) fun _ => .pure _

theorem readNamedEscape_mirrors : Mirrors size readNamedEscape readNamedEscape := by
  unfold readNamedEscape
  refine .accept_bind ?_ ?_
  · refine (Mirrors.takeUntil _ _).bind fun name => ?_
    split
    · exact .pure _
    · exact .fail _ _
  · exact .fail _ _

theorem readCodeEscape_mirrors (letter : Char) :
    Mirrors size (readCodeEscape letter) (readCodeEscape letter) := by
  unfold readCodeEscape
  refine .ite (fun _ => readHexEscape_mirrors _ _) fun _ => ?_
  refine .ite (fun _ => readHexEscape_mirrors _ _) fun _ => ?_
  refine .ite (fun _ => readHexEscape_mirrors _ _) fun _ => ?_
  refine .ite (fun _ => readNamedEscape_mirrors) fun _ => ?_
  exact .ite (fun _ => .fail _ _) fun _ => .pure _

theorem octalCode_mirrors (spelled : Text) :
    Mirrors size (octalCode spelled) (octalCode spelled) := by
  unfold octalCode
  exact .ite (fun _ => .fail _ _) fun _ => .pure _

theorem readSetEscape_mirrors (letter : Char) :
    Mirrors size (readSetEscape letter) (readSetEscape letter) := by
  unfold readSetEscape
  split
  · exact .pure _
  · exact .pure _
  · refine .ite (fun _ => ?_) fun _ => (readCodeEscape_mirrors letter).bind fun _ => .pure _
    refine (Mirrors.takeWhile _ (.inr rfl)).bind fun _ => ?_
    exact (octalCode_mirrors _).bind fun _ => .pure _

theorem checkLookBehind_mirrors (index : Nat) :
    Mirrors size (checkLookBehind index) (checkLookBehind index) := by
  unfold checkLookBehind
  refine .get_bind fun s t hagrees _ => ?_
  rw [hagrees.behind, hagrees.isClosed]
  split
  · exact .pure _
  · refine .ite (fun _ => .fail _ _) fun _ => ?_
    exact .ite (fun _ => .fail _ _) fun _ => .pure _

theorem readReference_mirrors (index back : Nat) :
    Mirrors size (readReference index back) (readReference index back) := by
  unfold readReference
  refine .get_bind fun s t hagrees _ => ?_
  rw [hagrees.widths, hagrees.isClosed]
  refine .ite (fun _ => .fail _ _) fun _ => ?_
  refine .ite (fun _ => .fail _ _) fun _ => ?_
  exact (checkLookBehind_mirrors index).bind fun _ => .pure _

theorem readDigitEscape_mirrors (first : Char) :
    Mirrors size (readDigitEscape first) (readDigitEscape first) := by
  unfold readDigitEscape
  refine (Mirrors.takeWhile _ (.inr rfl)).bind fun spelled => ?_
  split
  · refine .ite (fun _ => (Mirrors.takeWhile _ (.inr rfl)).bind fun third => ?_) fun _ =>
      (Mirrors.pure _).bind fun third => ?_
    all_goals
      refine .ite (fun _ => readReference_mirrors _ _) fun _ => ?_
      exact (octalCode_mirrors _).bind fun _ => .pure _
  · exact readReference_mirrors _ _

theorem readEscape_mirrors (letter : Char) :
    Mirrors size (readEscape letter) (readEscape letter) := by
  unfold readEscape
  split
  · exact .pure _
  · exact .pure _
  · exact .pure _
  · refine .ite (fun _ => ?_) fun _ => ?_
    · exact (Mirrors.takeWhile _ (.inr rfl)).bind fun _ => .pure _
    · refine .ite (fun _ => readDigitEscape_mirrors _) fun _ => ?_
      exact (readCodeEscape_mirrors _).bind fun _ => .pure _

theorem readMember_mirrors {p q : Piece} (h : p.Same q) :
    Mirrors size (readMember p) (readMember q) := by
  unfold readMember
  rw [h.1, h.2]
  exact .ite (fun _ => readSetEscape_mirrors _) fun _ => .pure _

theorem readMembers_mirrors (start start' : Nat) {n n' : Nat} (hn : size ≤ n ∧ size ≤ n')
    (members : List Member) :
    Mirrors size (readMembers start n members) (readMembers start' n' members) := by
  refine .loop (fun members n => readMembers start n members)
    (fun members n => readMembers start' n members) (fun _ _ => .pure _) ?_ (.inl hn) members
  intro size n n' members ih
  rw [readMembers, readMembers]
  refine .next_bind (.throw _) fun p q hpq => ?_
  dsimp only
  rw [hpq.isBare]
  refine .ite (fun _ => .pure _) fun _ => ?_
  refine (readMember_mirrors hpq).bind fun low => ?_
  refine .accept_bind ?_ (ih _)
  refine .next_bind (.throw _) fun r u hru => ?_
  have hless := fun members => (ih members).mono (by omega : size - 1 - 1 - 1 ≤ size - 1)
  dsimp only
  rw [hru.isBare, hpq.text, hru.text]
  refine .ite (fun _ => .pure _) fun _ => ?_
  refine (readMember_mirrors hru).bind fun high => ?_
  split
  · exact .ite (fun _ => .fail _ _) fun _ => hless _
  · exact .fail _ _

theorem readSet_mirrors (start start' : Nat) : Mirrors size (readSet start) (readSet start') := by
  unfold readSet
  have hset : ∀ size negated, Mirrors size
      (do return setOf negated (← readMembers start ((← get).rest.length + 1) []))
      (do return setOf negated (← readMembers start' ((← get).rest.length + 1) [])) := by
    intro size negated
    refine .get_bind fun s t _ hlength => ?_
    exact (readMembers_mirrors _ _ (by omega) _).bind fun _ => .pure _
  exact .accept_bind (hset _ true) (hset _ false)

theorem readCount_mirrors (spelled : Text) :
    Mirrors size (readCount spelled) (readCount spelled) := by
  unfold readCount
  split
  · exact .ite (fun _ => .throw _) fun _ => .pure _
  · exact .throw _

theorem readBoundTexts_mirrors : Mirrors size readBoundTexts readBoundTexts := by
  unfold readBoundTexts
  refine Mirrors.digits.bind fun low => .accept_bind ?_ ?_
  · exact Mirrors.digits.bind fun _ => .accept_bind (.pure _) (.pure _)
  · exact (Mirrors.pure low).bind fun _ => .accept_bind (.pure _) (.pure _)

theorem readBoundValues_mirrors (here here' : Nat) (low high : Text) :
    Mirrors size (readBoundValues here low high) (readBoundValues here' low high) := by
  unfold readBoundValues
  dsimp only
  refine .ite (fun _ => (Mirrors.pure _).bind fun least => ?_) fun _ =>
    (readCount_mirrors _).bind fun least => ?_
  all_goals
    refine .ite (fun _ => (Mirrors.pure _).bind fun most => ?_) fun _ =>
      ((readCount_mirrors _).map _).bind fun most => ?_
  all_goals exact .ite (fun _ => .throw_bind _) fun _ => .pure _

theorem readBounds_mirrors : Mirrors size readBounds readBounds where
  drops hreads := by
    rw [reads_readBounds_iff] at hreads
    split_ifs at hreads
    · exact hreads.2 ▸ List.suffix_refl _
    · obtain ⟨texts, middle, htexts, hvalues⟩ := hreads
      split_ifs at hvalues
      · have hfirst : Mirrors 0 readBoundTexts readBoundTexts := readBoundTexts_mirrors
        have hsecond : ∀ here, Mirrors 0 (readBoundValues here texts.1 texts.2.1)
            (readBoundValues here texts.1 texts.2.1) := fun _ => readBoundValues_mirrors _ _ _ _
        exact ((hsecond _).drops hvalues).trans (hfirst.drops htexts)
      · exact hvalues.2 ▸ List.suffix_refl _
  mirrors {close more s t bounds t'} hext hsize hreads hlength := by
    -- With or without bounds, the texts are read in front of the parenthesis.
    have htexts : ∀ {texts t₁}, Reads readBoundTexts t texts t₁ →
        ∃ s₁, Reads readBoundTexts s texts s₁ ∧ s₁.Extends close more t₁ := by
      intro texts t₁ ht₁
      have hin : close :: more <:+ t₁.rest :=
        readBoundTexts_stopsAt (by decide) (by decide) (by decide) hext.isBare ht₁ hext.suffix
      exact readBoundTexts_mirrors.mirrors hext hsize ht₁ hin.length_le
    have hhead : ((s.rest.head?.map (·.isBare '}')).getD false) =
        ((t.rest.head?.map (·.isBare '}')).getD false) := by
      obtain ⟨hs, ht⟩ | ⟨p, rest, q, rest', hs, ht, hpq, -⟩ := hext.cases
      · have hother : close.isBare '}' = false := Bool.eq_false_iff.mpr fun hclose =>
          absurd (Piece.eq_of_isBare hext.isBare hclose) (by decide)
        rw [hs, ht]
        exact hother.symm
      · rw [hs, ht]
        exact hpq.isBare '}'
    rw [reads_readBounds_iff] at hreads
    simp only [reads_readBounds_iff]
    rw [hhead]
    split_ifs at hreads ⊢
    · obtain ⟨rfl, rfl⟩ := hreads
      exact ⟨s, ⟨rfl, rfl⟩, hext⟩
    · obtain ⟨texts, t₁, ht₁, hvalues⟩ := hreads
      obtain ⟨s₁, hs₁, hext₁⟩ := htexts ht₁
      by_cases hclosed : texts.2.2
      · rw [if_pos hclosed] at hvalues
        obtain ⟨s', hs', hext'⟩ := (readBoundValues_mirrors _ _ _ _).mirrors hext₁
          (Nat.lt_succ_self _) hvalues hlength
        exact ⟨s', ⟨texts, s₁, hs₁, by rwa [if_pos hclosed]⟩, hext'⟩
      · rw [if_neg hclosed] at hvalues
        obtain ⟨rfl, rfl⟩ := hvalues
        exact ⟨s, ⟨texts, s₁, hs₁, by rw [if_neg hclosed]; exact ⟨rfl, rfl⟩⟩, hext⟩

theorem readRepeat_mirrors (start start' least : Nat) (most : Option Nat) (items : List Node) :
    Mirrors size (readRepeat start least most items) (readRepeat start' least most items) := by
  unfold readRepeat
  split
  · exact .throw _
  · exact .throw _
  · exact .throw _
  · refine .accept_bind ?_ ?_
    · exact (Mirrors.pure _).bind fun _ => .pure _
    · exact .accept_bind (.pure _) (.pure _)

theorem readOptionPiece_bind_mirrors (marks : List Char) (missing : String)
    {f f' : Char → Reader α} (h : ∀ c, Mirrors (size - 1) (f c) (f' c)) :
    Mirrors size (readOptionPiece marks missing >>= f) (readOptionPiece marks missing >>= f') := by
  unfold readOptionPiece
  rw [bind_assoc, bind_assoc]
  refine .next_bind (.fail_bind _ _) fun p q hpq => ?_
  dsimp only
  rw [hpq.1, hpq.2, hpq.text]
  split_ifs
  · simpa only [pure_bind] using h _
  · exact .fail_bind _ _
  · exact .fail_bind _ _

theorem readOptionsOn_mirrors {n n' : Nat} (hn : size ≤ n ∧ size ≤ n') (letter : Char)
    (letters : List Char) :
    Mirrors size (readOptionsOn n letter letters) (readOptionsOn n' letter letters) := by
  refine .loop (fun (i : Char × List Char) n => readOptionsOn n i.1 i.2)
    (fun i n => readOptionsOn n i.1 i.2) (fun _ _ => .pure _) ?_ (.inl hn) (letter, letters)
  intro size n n' i ih
  rw [readOptionsOn, readOptionsOn]
  dsimp only
  refine .ite (fun _ => .fail_bind _ _) fun _ => ?_
  refine .ite (fun _ => .fail_bind _ _) fun _ => ?_
  refine readOptionPiece_bind_mirrors _ _ fun c => ?_
  exact .ite (fun _ => ih (c, _)) fun _ => .pure _

theorem readOptionsOff_mirrors {n n' : Nat} (hn : size ≤ n ∧ size ≤ n') (letter : Char)
    (letters : List Char) :
    Mirrors size (readOptionsOff n letter letters) (readOptionsOff n' letter letters) := by
  refine .loop (fun (i : Char × List Char) n => readOptionsOff n i.1 i.2)
    (fun i n => readOptionsOff n i.1 i.2) (fun _ _ => .pure _) ?_ (.inl hn) (letter, letters)
  intro size n n' i ih
  rw [readOptionsOff, readOptionsOff]
  dsimp only
  refine .ite (fun _ => .fail_bind _ _) fun _ => ?_
  refine readOptionPiece_bind_mirrors _ _ fun c => ?_
  exact .ite (fun _ => .pure _) fun _ => ih (c, _)

theorem readOptions_mirrors (start start' : Nat) (first : Char) :
    Mirrors size (readOptions start first) (readOptions start' first) := by
  unfold readOptions
  refine .get_bind fun s t _ hlength => ?_
  dsimp only
  refine .ite (fun _ => (Mirrors.pure _).bind fun i => ?_) fun _ =>
    (readOptionsOn_mirrors (by omega) _ _).bind fun i => ?_
  all_goals
    refine .ite (fun _ => .throw_bind _) fun _ => ?_
    refine .ite (fun _ => .fail_bind _ _) fun _ => ?_
    refine .ite (fun _ => readOptionPiece_bind_mirrors _ _ fun c =>
      (readOptionsOff_mirrors (by omega) _ _).bind fun off => ?_) fun _ =>
        (Mirrors.pure _).bind fun off => ?_
  all_goals
    refine .ite (fun _ => .fail_bind _ _) fun _ => ?_
    exact .ite (fun _ => .fail_bind _ _) fun _ => .pure _

/-- A group is opened without a look at anything but the groups so far. -/
theorem openGroup_eq (name : Option Text) :
    openGroup name = get >>= fun s =>
      match name with
      | none => do
        modify fun s => { s with widths := s.widths ++ [none] }
        return s.widths.length + 1
      | some name =>
        match s.names.lookup name with
        | some earlier =>
          Reader.fail (.redefinedGroup name (s.widths.length + 1) earlier) (name.length + 1)
        | none => do
          modify fun s =>
            { s with
              widths := s.widths ++ [none]
              names := s.names ++ [(name, s.widths.length + 1)] }
          return s.widths.length + 1 := by
  funext s
  cases name with
  | none => rfl
  | some name =>
    have hget : ∀ f : Reading → Reader Nat, (get >>= f) s = f s s := fun _ => rfl
    unfold openGroup
    rw [hget, hget]
    dsimp only
    cases s.names.lookup name <;> rfl

theorem openGroup_mirrors (name : Option Text) :
    Mirrors size (openGroup name) (openGroup name) := by
  rw [openGroup_eq]
  refine .get_bind fun s t hagrees _ => ?_
  rw [hagrees.widths, hagrees.names]
  cases name with
  | none =>
    refine Mirrors.bind (.modify (fun _ => rfl) (fun _ => rfl) fun s t h => ?_) fun _ => .pure _
    exact ⟨congrArg (· ++ _) h.widths, h.names, h.behind⟩
  | some name =>
    dsimp only
    split
    · exact .fail _ _
    · refine Mirrors.bind (.modify (fun _ => rfl) (fun _ => rfl) fun s t h => ?_) fun _ => .pure _
      refine ⟨congrArg (· ++ _) h.widths, ?_, h.behind⟩
      rw [h.names, h.widths]

theorem closeGroup_mirrors (index : Nat) (body : Node) :
    Mirrors size (closeGroup index body) (closeGroup index body) := by
  unfold closeGroup
  refine .modify (fun _ => rfl) (fun _ => rfl) fun s t hagrees => ?_
  exact ⟨by rw [hagrees.widths], hagrees.names, hagrees.behind⟩

theorem readGroupName_mirrors (mark : Char) :
    Mirrors size (readGroupName mark) (readGroupName mark) := by
  unfold readGroupName
  refine (Mirrors.takeUntil _ _).bind fun name => ?_
  exact .ite (fun _ => .pure _) fun _ => .fail _ _

theorem readNamedReference_mirrors : Mirrors size readNamedReference readNamedReference := by
  unfold readNamedReference
  refine (readGroupName_mirrors _).bind fun name => ?_
  refine .get_bind fun s t hagrees _ => ?_
  rw [hagrees.names]
  split
  · exact .fail _ _
  · dsimp only
    rw [hagrees.isClosed]
    refine .ite (fun _ => .fail_bind _ _) fun _ => ?_
    exact (checkLookBehind_mirrors _).bind fun _ => .pure _

theorem readConditionGroup_mirrors : Mirrors size readConditionGroup readConditionGroup := by
  unfold readConditionGroup
  refine (Mirrors.takeUntil _ _).bind fun name => ?_
  refine .ite (fun _ => .get_bind fun s t hagrees _ => ?_) fun _ => ?_
  · rw [hagrees.names]
    split
    · exact .fail _ _
    · exact .pure _
  · split
    · exact .fail _ _
    · exact .fail _ _
    · refine .ite (fun _ => .fail_bind _ _) fun _ => ?_
      refine .ite (fun _ => .fail_bind _ _) fun _ => ?_
      refine .tell_bind fun here here' => ?_
      refine Mirrors.bind (.modify ?_ ?_ ?_) fun _ => .pure _
      · intro s
        split_ifs <;> rfl
      · intro s
        split_ifs <;> rfl
      · intro s t hagrees
        split_ifs <;> exact ⟨hagrees.widths, hagrees.names, hagrees.behind⟩

theorem closeParenthesis_mirrors (start start' : Nat) :
    Mirrors size (closeParenthesis start) (closeParenthesis start') := by
  unfold closeParenthesis
  exact .accept_bind (.pure _) (.throw _)

theorem skipComment_mirrors (start start' : Nat) {n n' : Nat} (hn : size ≤ n ∧ size ≤ n') :
    Mirrors size (skipComment start n) (skipComment start' n') := by
  refine .loop (fun (_ : Unit) n => skipComment start n)
    (fun _ n => skipComment start' n) (fun _ _ => .pure _) ?_ (.inl hn) ()
  intro size n n' _ ih
  rw [skipComment, skipComment]
  refine .next_bind (.throw _) fun p q hpq => ?_
  dsimp only
  rw [hpq.isBare]
  exact .ite (fun _ => .pure _) fun _ => ih ()

theorem skipLine_mirrors {n n' : Nat} (hn : size ≤ n ∧ size ≤ n') :
    Mirrors size (skipLine n) (skipLine n') := by
  refine .loop (fun (_ : Unit) n => skipLine n)
    (fun _ n => skipLine n) (fun _ _ => .pure _) ?_ (.inl hn) ()
  intro size n n' _ ih
  rw [skipLine, skipLine]
  refine .next_bind (.pure _) fun p q hpq => ?_
  dsimp only
  rw [hpq.isBare]
  exact .ite (fun _ => .pure _) fun _ => ih ()

end Parts

/-- Calls allowed to go down to certain depths, if these are enough for the pieces: five calls lead
from one piece to the next. -/
structure MirrorsTo (depth depth' : Nat) : Prop where
  sequence : ∀ {size : Nat}, 5 * size + 1 ≤ depth + 5 → 5 * size + 1 ≤ depth' + 5 →
    ∀ verbose items,
      Mirrors size (readSequence depth verbose items) (readSequence depth' verbose items)
  alternatives : ∀ {size : Nat}, 5 * size + 2 ≤ depth + 5 → 5 * size + 2 ≤ depth' + 5 →
    ∀ verbose, Mirrors size (readAlternatives depth verbose) (readAlternatives depth' verbose)
  body : ∀ {size : Nat}, 5 * size + 3 ≤ depth + 5 → 5 * size + 3 ≤ depth' + 5 →
    ∀ verbose start start',
      Mirrors size (readBody depth verbose start) (readBody depth' verbose start')
  capture : ∀ {size : Nat}, 5 * size + 4 ≤ depth + 5 → 5 * size + 4 ≤ depth' + 5 →
    ∀ verbose start start' name,
      Mirrors size (readCapture depth verbose start name) (readCapture depth' verbose start' name)
  parenthesis : ∀ {size : Nat}, 5 * size + 5 ≤ depth + 5 → 5 * size + 5 ≤ depth' + 5 →
    ∀ verbose start start',
      Mirrors size (readParenthesis depth verbose start) (readParenthesis depth' verbose start')

section Depths

variable {depth depth' size : Nat}

theorem readSequence_mirrors (h : MirrorsTo depth depth') (hn : 5 * size + 1 ≤ depth + 1 + 5)
    (hn' : 5 * size + 1 ≤ depth' + 1 + 5) (verbose : Bool) (items : List Node) :
    Mirrors size (readSequence (depth + 1) verbose items)
      (readSequence (depth' + 1) verbose items) := by
  have hmore : ∀ items, Mirrors (size - 1) (readSequence depth verbose items)
      (readSequence depth' verbose items) := h.sequence (by omega) (by omega) verbose
  rw [readSequence, readSequence]
  refine .tell_bind fun start start' => ?_
  refine .peek_bind (.pure _) (fun q hq => .inl ?_) fun p q hpq => ?_
  · dsimp only
    rw [if_pos (by rw [hq, Bool.or_true])]
    exact .pure _
  · dsimp only
    rw [hpq.isBare, hpq.isBare, hpq.1, hpq.2]
    refine .ite (fun _ => .pure _) fun _ => .skip_bind ?_
    refine .ite (fun _ => (readEscape_mirrors _).bind fun _ => hmore _) fun _ => ?_
    refine .ite (fun _ => hmore _) fun _ => ?_
    refine .ite (fun _ => ?_) fun _ => ?_
    · refine .get_bind fun s t _ hlength => ?_
      exact (skipLine_mirrors (by omega)).bind fun _ => (hmore _).mono (by omega)
    have hrepeat : ∀ least most, Mirrors (size - 1)
        (do readSequence depth verbose (← readRepeat start least most items))
        (do readSequence depth' verbose (← readRepeat start' least most items)) :=
      fun _ _ => (readRepeat_mirrors _ _ _ _ _).bind hmore
    split
    · exact (readSet_mirrors _ _).bind fun _ => hmore _
    · exact hrepeat 0 (some 1)
    · exact hrepeat 0 none
    · exact hrepeat 1 none
    · refine readBounds_mirrors.bind fun bounds => ?_
      cases bounds with
      | none => exact hmore _
      | some bounds => exact hrepeat bounds.1 bounds.2
    · exact hmore _
    · exact hmore _
    · exact hmore _
    · refine (h.parenthesis (by omega) (by omega) _ _ _).bind fun item => ?_
      cases item with
      | none => exact hmore _
      | some item => exact hmore _
    · exact hmore _

theorem readAlternatives_mirrors (h : MirrorsTo depth depth') (hn : 5 * size + 2 ≤ depth + 1 + 5)
    (hn' : 5 * size + 2 ≤ depth' + 1 + 5) (verbose : Bool) :
    Mirrors size (readAlternatives (depth + 1) verbose)
      (readAlternatives (depth' + 1) verbose) := by
  rw [readAlternatives, readAlternatives]
  refine (h.sequence (by omega) (by omega) _ _).bind fun first => .accept_bind ?_ (.pure _)
  exact (h.alternatives (by omega) (by omega) _).bind fun _ => .pure _

theorem readBody_mirrors (h : MirrorsTo depth depth') (hn : 5 * size + 3 ≤ depth + 1 + 5)
    (hn' : 5 * size + 3 ≤ depth' + 1 + 5) (verbose : Bool) (start start' : Nat) :
    Mirrors size (readBody (depth + 1) verbose start) (readBody (depth' + 1) verbose start') := by
  rw [readBody, readBody]
  refine (h.alternatives (by omega) (by omega) _).bind fun _ => ?_
  exact (closeParenthesis_mirrors _ _).bind fun _ => .pure _

theorem readCapture_mirrors (h : MirrorsTo depth depth') (hn : 5 * size + 4 ≤ depth + 1 + 5)
    (hn' : 5 * size + 4 ≤ depth' + 1 + 5) (verbose : Bool) (start start' : Nat)
    (name : Option Text) : Mirrors size (readCapture (depth + 1) verbose start name)
      (readCapture (depth' + 1) verbose start' name) := by
  rw [readCapture, readCapture]
  refine (openGroup_mirrors _).bind fun index => ?_
  refine (h.body (by omega) (by omega) _ _ _).bind fun body => ?_
  exact (closeGroup_mirrors _ _).bind fun _ => .pure _

theorem readParenthesis_mirrors (h : MirrorsTo depth depth')
    (hn : 5 * size + 5 ≤ depth + 1 + 5) (hn' : 5 * size + 5 ≤ depth' + 1 + 5) (verbose : Bool)
    (start start' : Nat) : Mirrors size (readParenthesis (depth + 1) verbose start)
      (readParenthesis (depth' + 1) verbose start') := by
  have hcapture : ∀ name, Mirrors size (do return some (← readCapture depth verbose start name))
      (do return some (← readCapture depth' verbose start' name)) := fun name =>
    (h.capture (by omega) (by omega) _ _ _ _).bind fun _ => .pure _
  have hbody : ∀ inner (change : Node → Node), Mirrors size
      (do return some (change (← readBody depth inner start)))
      (do return some (change (← readBody depth' inner start'))) := fun inner change =>
    (h.body (by omega) (by omega) _ _ _).bind fun _ => .pure _
  rw [readParenthesis, readParenthesis]
  refine .accept_bind ?_ (hcapture none)
  refine .next_bind (.fail _ _) fun p q hpq => ?_
  dsimp only
  rw [hpq.1, hpq.2, hpq.text]
  refine .ite (fun _ => .fail_bind _ _) fun _ => ?_
  split
  · refine .accept_bind ?_ (.accept_bind ?_ ?_)
    · exact (readGroupName_mirrors _).bind fun _ => (hcapture _).mono (by omega)
    · exact readNamedReference_mirrors.bind fun _ => .pure _
    · exact .next_bind (.fail _ _) fun _ _ _ => .fail _ _
  · exact (hbody _ _).mono (by omega)
  · exact (hbody _ _).mono (by omega)
  · exact (hbody _ _).mono (by omega)
  · exact (hbody _ _).mono (by omega)
  · refine .get_bind fun s t _ hlength => ?_
    exact (skipComment_mirrors _ _ (by omega)).bind fun _ => .pure _
  · refine .next_bind (.fail _ _) fun r u hru => ?_
    dsimp only
    rw [hru.isBare, hru.isBare, hru.2, hru.text]
    refine .ite (fun _ => .get_bind fun before before' hbefore _ => ?_) fun _ => .fail _ _
    refine Mirrors.bind (.modify (fun _ => rfl) (fun _ => rfl) fun s t hagrees => ?_) fun _ => ?_
    · exact ⟨hagrees.widths, hagrees.names, by rw [hagrees.widths, hbefore.behind]⟩
    refine (h.alternatives (by omega) (by omega) _).bind fun alternatives => ?_
    refine Mirrors.bind (.modify (fun _ => rfl) (fun _ => rfl) fun s t hagrees => ?_) fun _ => ?_
    · exact ⟨hagrees.widths, hagrees.names, hbefore.behind⟩
    refine (closeParenthesis_mirrors _ _).bind fun _ => .get_bind fun s t hagrees _ => ?_
    rw [hagrees.widths]
    exact .pure _
  · refine readConditionGroup_mirrors.bind fun index => ?_
    refine (checkLookBehind_mirrors _).bind fun _ => ?_
    refine (h.sequence (by omega) (by omega) _ _).bind fun present => ?_
    have hclose : ∀ size (absent : List Node), Mirrors size
        (do
          let absent ← pure absent
          closeParenthesis start
          return some (Node.ifGroup index (.ofItems present) (.ofItems absent)))
        (do
          let absent ← pure absent
          closeParenthesis start'
          return some (Node.ifGroup index (.ofItems present) (.ofItems absent))) :=
      fun _ _ => (Mirrors.pure _).bind fun _ => (closeParenthesis_mirrors _ _).bind fun _ => .pure _
    refine .accept_bind ?_ (hclose _ _)
    refine (h.sequence (by omega) (by omega) _ _).bind fun absent => ?_
    refine .peek_bind (hclose _ _) (fun q hq => .inl ?_) fun p q hpq => ?_
    · have hbar : q.isBare '|' = false := Bool.eq_false_iff.mpr fun hbar =>
        absurd (Piece.eq_of_isBare hq hbar) (by decide)
      simp only [Option.map_none, Option.getD_none, Option.map_some, Option.getD_some, hbar,
        Bool.false_eq_true, if_false]
      exact hclose _ absent
    · simp only [Option.map_some, Option.getD_some, hpq.isBare]
      exact .ite (fun _ => .fail_bind _ _) fun _ => hclose _ _
  · refine .ite (fun _ => ?_) fun _ => .fail _ _
    exact (readOptions_mirrors _ _ _).bind fun _ => (hbody _ _).mono (by omega)

theorem mirrorsTo_zero (depth : Nat) : MirrorsTo depth 0 where
  sequence {size} hn hn' _ _ := by
    obtain rfl : size = 0 := by omega
    rw [readSequence]
    exact .zero_congr (.pure _)
  alternatives {size} hn hn' _ := by
    obtain rfl : size = 0 := by omega
    rw [readAlternatives]
    exact .zero_congr (.pure _)
  body {size} hn hn' _ _ _ := by
    obtain rfl : size = 0 := by omega
    rw [readBody]
    exact .zero_congr (.pure _)
  capture {size} hn hn' _ _ _ _ := by
    obtain rfl : size = 0 := by omega
    rw [readCapture]
    exact .zero_congr (.pure _)
  parenthesis {size} hn hn' _ _ _ := by
    obtain rfl : size = 0 := by omega
    rw [readParenthesis]
    exact .zero_congr (.pure _)

theorem MirrorsTo.succ (h : MirrorsTo depth depth') : MirrorsTo (depth + 1) (depth' + 1) where
  sequence := readSequence_mirrors h
  alternatives := readAlternatives_mirrors h
  body := readBody_mirrors h
  capture := readCapture_mirrors h
  parenthesis := readParenthesis_mirrors h

/-- No depth at all is enough for no pieces only. -/
theorem MirrorsTo.zero_left (h : MirrorsTo depth depth') : MirrorsTo 0 depth' where
  sequence {size} hn hn' _ _ := by
    obtain rfl : size = 0 := by omega
    exact .zero_congr (h.sequence (by omega) hn' _ _)
  alternatives {size} hn hn' _ := by
    obtain rfl : size = 0 := by omega
    exact .zero_congr (h.alternatives (by omega) hn' _)
  body {size} hn hn' _ start _ := by
    obtain rfl : size = 0 := by omega
    exact .zero_congr (h.body (by omega) hn' _ start _)
  capture {size} hn hn' _ start _ _ := by
    obtain rfl : size = 0 := by omega
    exact .zero_congr (h.capture (by omega) hn' _ start _ _)
  parenthesis {size} hn hn' _ start _ := by
    obtain rfl : size = 0 := by omega
    exact .zero_congr (h.parenthesis (by omega) hn' _ start _)

theorem mirrorsTo (depth depth' : Nat) : MirrorsTo depth depth' := by
  -- The two patterns have different lengths, and so have the depths allowed for them.
  induction depth' generalizing depth with
  | zero => exact mirrorsTo_zero depth
  | succ depth' ih =>
    cases depth with
    | succ depth => exact (ih depth).succ
    | zero => exact (ih depth').succ.zero_left

end Depths

end Morphotactics.Pattern
