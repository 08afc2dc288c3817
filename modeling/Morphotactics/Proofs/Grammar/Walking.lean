import Morphotactics.Proofs.Grammar.Alternative
import Morphotactics.Proofs.Grammar.Cursor

/-! Walks that track a reader. They end with what it reads, and their cursor is never behind the
first end token. -/
namespace Morphotactics

variable {α β : Type}

/-- The place of the first end token. -/
def Tokens.firstEnd (ts : Tokens) : Nat :=
  ts.findIdx (·.kind = .eof)

namespace Walker

variable {w w' : Walk}

theorem walk_bind_ok {walker : Walker α} {next : α → Walker β} {a : α}
    (h : walker.walk w = some (.ok a, w')) : (walker >>= next).walk w = (next a).walk w' := by
  have hrun : walker.run.run w = some (.ok a, w') := h
  simp only [walk, ExceptT.run_bind, StateT.run_bind, hrun]
  rfl

theorem walk_bind_error {walker : Walker α} {next : α → Walker β} {e : ParseError}
    (h : walker.walk w = some (.error e, w')) :
    (walker >>= next).walk w = some (.error e, w') := by
  have hrun : walker.run.run w = some (.error e, w') := h
  simp only [walk, ExceptT.run_bind, StateT.run_bind, hrun]
  rfl

/-- Where one walk is finished, the other is as well, and in the same way. -/
def Extends (walker shorter : Walker α) : Prop :=
  ∀ w r, shorter.walk w = some r → walker.walk w = some r

namespace Extends

variable {first shorter : Walker α} {next next' : α → Walker β} {pass pass' : Walker (β × Bool)}
  {bound bound' : Nat}

theorem refl (walker : Walker α) : Extends walker walker :=
  fun _ _ => id

theorem unfinished (walker : Walker α) : Extends walker .unfinished :=
  fun _ _ h => nomatch h

theorem bind (h : Extends first shorter) (hnext : ∀ a, Extends (next a) (next' a)) :
    Extends (first >>= next) (shorter >>= next') := by
  intro w r hwalk
  cases hshorter : shorter.walk w with
  | none =>
    have hrun : shorter.run.run w = none := hshorter
    simp only [walk, ExceptT.run_bind, StateT.run_bind, hrun] at hwalk
    cases hwalk
  | some found =>
    obtain ⟨a | e, w'⟩ := found
    · rw [walk_bind_error hshorter] at hwalk
      exact (walk_bind_error (h w _ hshorter)).trans hwalk
    · rw [walk_bind_ok hshorter] at hwalk
      exact (walk_bind_ok (h w _ hshorter)).trans (hnext _ _ _ hwalk)

theorem loop (h : Extends pass' pass) (hbound : bound ≤ bound') :
    Extends (Walker.loop pass' bound') (Walker.loop pass bound) := by
  induction bound generalizing bound' with
  | zero => exact unfinished _
  | succ n ih =>
    obtain ⟨m, rfl⟩ : ∃ m, bound' = m + 1 := ⟨bound' - 1, by omega⟩
    refine (refl _).bind fun w => h.bind fun (b, again) => ?_
    cases again with
    | false => exact refl _
    | true =>
      exact (refl _).bind fun _ => (ih (Nat.le_of_succ_le_succ hbound)).bind fun more => refl _

theorem loopWhile {asked : Walker Bool} {pass pass' : Walker β} (h : Extends pass' pass)
    (hbound : bound ≤ bound') :
    Extends (Walker.loopWhile asked pass' bound') (Walker.loopWhile asked pass bound) := by
  refine (refl _).bind fun again => ?_
  cases again with
  | false => exact refl _
  | true => exact .loop (h.bind fun b => refl _) hbound

end Extends

section Bounds

variable {ts : Tokens} {bound bound' : Nat} (hbound : bound ≤ bound')

include hbound

theorem inside_extends {inner inner' : Walker Element} (h : Extends inner' inner) :
    Extends (element.inside ts bound' inner') (element.inside ts bound inner) := by
  have hglosses : Extends (glosses ts bound') (glosses ts bound) := .loop (.refl _) hbound
  rw [element.inside, element.inside]
  refine (Extends.refl _).bind fun t => ?_
  generalize t.kind = kind
  cases kind <;> dsimp only
  case leftBrace => exact (Extends.refl _).bind fun _ => hglosses.bind fun options => .refl _
  case leftBracket => exact (Extends.refl _).bind fun _ => h.bind fun child => .refl _
  all_goals exact .refl _

theorem element_extends {depth depth' : Nat} (hdepth : depth ≤ depth') :
    Extends (element ts bound' depth') (element ts bound depth) := by
  induction depth generalizing depth' with
  | zero => exact .unfinished _
  | succ n ih =>
    obtain ⟨m, rfl⟩ : ∃ m, depth' = m + 1 := ⟨depth' - 1, by omega⟩
    have hinside : Extends (element.inside ts bound' (element ts bound' m))
        (element.inside ts bound (element ts bound n)) :=
      inside_extends hbound (ih (Nat.le_of_succ_le_succ hdepth))
    rw [element, element]
    exact (Extends.refl _).bind fun w => hinside.bind fun e => .refl _

theorem alternatives_extends : Extends (alternatives ts bound') (alternatives ts bound) := by
  have halternative : Extends (alternative ts bound') (alternative ts bound) :=
    .loopWhile ((element_extends hbound hbound).bind fun e => .refl _) hbound
  exact .loop (halternative.bind fun a => .refl _) hbound

theorem declaration_extends : Extends (declaration ts bound') (declaration ts bound) := by
  have hdefinitions : Extends (definitions ts bound') (definitions ts bound) :=
    .loopWhile (.refl _) hbound
  have halternatives : Extends (alternatives ts bound') (alternatives ts bound) :=
    alternatives_extends hbound
  rw [declaration, declaration]
  refine (Extends.refl _).bind fun isSet => ?_
  split_ifs
  · exact (Extends.refl _).bind fun header => hdefinitions.bind fun parts => .refl _
  · refine (Extends.refl _).bind fun isRule => ?_
    split_ifs
    · exact (Extends.refl _).bind fun header => halternatives.bind fun parts => .refl _
    · exact .refl _

/-- A greater bound makes no difference to a walk that is finished. -/
theorem declarations_extends : Extends (declarations ts bound') (declarations ts bound) :=
  .loopWhile (declaration_extends hbound) hbound

end Bounds

end Walker

/-- Neither where the cursor is nor where it was is behind the first end token, and it has gone on
in everything that was noted. -/
structure Walk.Sound (ts : Tokens) (w : Walk) : Prop where
  place : w.place ≤ ts.firstEnd
  stood : ∀ p ∈ w.stood, p ≤ ts.firstEnd
  passes : ∀ p ∈ w.passes, p.1 < p.2
  elements : ∀ p ∈ w.elements, p.1 < p.2

/-- The tokens at the cursor and behind it. -/
def Walk.ahead (ts : Tokens) (w : Walk) : Tokens :=
  ts.drop w.place

theorem Walk.ahead_length_le (ts : Tokens) (w : Walk) : (w.ahead ts).length ≤ ts.length := by
  rw [Walk.ahead, List.length_drop]
  exact Nat.sub_le _ _

theorem Walk.place_lt_of_ahead {ts : Tokens} {w w' : Walk}
    (h : (w'.ahead ts).length < (w.ahead ts).length) : w.place < w'.place := by
  rw [Walk.ahead, Walk.ahead, List.length_drop, List.length_drop] at h
  omega

theorem Walk.Sound.notePass {ts : Tokens} {w : Walk} (h : w.Sound ts) {begun : Nat}
    (hbegun : begun < w.place) : (w.notePass begun).Sound ts :=
  ⟨h.place, h.stood, List.forall_mem_cons.mpr ⟨hbegun, h.passes⟩, h.elements⟩

theorem Walk.Sound.noteElement {ts : Tokens} {w : Walk} (h : w.Sound ts) {begun : Nat}
    (hbegun : begun < w.place) : (w.noteElement begun).Sound ts :=
  ⟨h.place, h.stood, h.passes, List.forall_mem_cons.mpr ⟨hbegun, h.elements⟩⟩

/-- A walk ends with what a reader reads, in front of the tokens that the reader has left. -/
inductive Tracks (ts : Tokens) (w : Walk) (walker : Walker α) :
    Except ParseError (Parsed α) → Prop
  | ok {a : α} {w' : Walk} (walk : walker.walk w = some (.ok a, w')) (sound : w'.Sound ts) :
      Tracks ts w walker (.ok (a, w'.ahead ts))
  | error {e : ParseError} {w' : Walk} (walk : walker.walk w = some (.error e, w'))
      (sound : w'.Sound ts) : Tracks ts w walker (.error e)

namespace Tracks

variable {ts : Tokens} {w : Walk} {walker : Walker α} {next : α → Walker β}

theorem done (hw : w.Sound ts) (a : α) : Tracks ts w (pure a) (.ok (a, w.ahead ts)) :=
  .ok rfl hw

theorem throws (hw : w.Sound ts) (e : ParseError) :
    Tracks ts w (throw e : Walker α) (.error e) :=
  .error rfl hw

/-- Steps that have been taken are in front of the walk. -/
theorem after {a : α} {w' : Walk} {outcome : Except ParseError (Parsed β)}
    (hwalk : walker.walk w = some (.ok a, w')) (h : Tracks ts w' (next a) outcome) :
    Tracks ts w (walker >>= next) outcome := by
  have hbind : (walker >>= next).walk w = (next a).walk w' := Walker.walk_bind_ok hwalk
  cases h with
  | ok walk sound => exact .ok (hbind.trans walk) sound
  | error walk sound => exact .error (hbind.trans walk) sound

theorem outcome {result : Except ParseError (Parsed α)} (h : Tracks ts w walker result) :
    ∃ w', walker.walk w = some (result.map Prod.fst, w') ∧ w'.Sound ts := by
  cases h with
  | ok walk sound => exact ⟨_, walk, sound⟩
  | error walk sound => exact ⟨_, walk, sound⟩

theorem bind {first : Except ParseError (Parsed α)}
    {second : Parsed α → Except ParseError (Parsed β)} (h : Tracks ts w walker first)
    (hnext : ∀ a (w' : Walk), first = .ok (a, w'.ahead ts) → w'.Sound ts →
      Tracks ts w' (next a) (second (a, w'.ahead ts))) :
    Tracks ts w (walker >>= next) (first >>= second) := by
  cases h with
  | error walk sound => exact .error (Walker.walk_bind_error walk) sound
  | @ok a w' walk sound => exact .after walk (hnext a w' rfl sound)

end Tracks

theorem Tokens.firstEnd_lt {ts : Tokens} (hend : ∃ t ∈ ts, t.kind = .eof) :
    ts.firstEnd < ts.length :=
  List.findIdx_lt_length_of_exists (by simpa using hend)

theorem Tokens.current_firstEnd {ts : Tokens} (hend : ∃ t ∈ ts, t.kind = .eof) :
    (Tokens.current (ts.drop ts.firstEnd)).kind = .eof := by
  have hlt := Tokens.firstEnd_lt hend
  have hlast := List.findIdx_getElem (w := hlt)
  rw [List.drop_eq_getElem_cons hlt]
  exact of_decide_eq_true hlast

variable {ts : Tokens} {w : Walk} (hend : ∃ t ∈ ts, t.kind = .eof) (hw : w.Sound ts)

section Looking

include hend hw

/-- The cursor stands at a token, which need not be looked for elsewhere. -/
theorem Walk.Sound.place_lt : w.place < ts.length :=
  Nat.lt_of_le_of_lt hw.place (Tokens.firstEnd_lt hend)

theorem Walk.Sound.ahead_eq : w.ahead ts = (w.ahead ts).current :: w.advance.ahead ts := by
  have hcons := List.drop_eq_getElem_cons (hw.place_lt hend)
  rw [Walk.ahead, hcons]
  rfl

theorem Walker.walk_current :
    (Walker.current ts).walk w = some (.ok (w.ahead ts).current, w) := by
  have hplace := hw.place_lt hend
  have hmin : min w.place (ts.length - 1) = w.place := by omega
  have hcurrent : ts.getD w.place ⟨.eof, [], .start⟩ = (w.ahead ts).current := by
    rw [Tokens.current, Walk.ahead, List.headD_eq_head?_getD, List.head?_drop,
      List.getD_eq_getElem?_getD]
  show some (Except.ok (ts.getD (min w.place (ts.length - 1)) _), w) = _
  rw [hmin, hcurrent]

theorem Walker.walk_at? (kind : TokenKind) :
    (Walker.at? ts kind).walk w = some (.ok ((w.ahead ts).at? kind), w) := by
  rw [Walker.at?, Walker.walk_bind_ok (Walker.walk_current hend hw)]
  rfl

theorem Walker.walk_fail (expected : Expected) :
    (Walker.fail ts expected : Walker α).walk w =
      some (.error (.unexpected expected (w.ahead ts).current.kind (w.ahead ts).current.position),
        w) := by
  rw [Walker.fail, Walker.walk_bind_ok (Walker.walk_current hend hw)]
  rfl

/-- The cursor goes on from a token that is not an end token. -/
theorem Walk.Sound.advance (hkind : (w.ahead ts).current.kind ≠ .eof) : w.advance.Sound ts := by
  have hbefore : w.place < ts.firstEnd := by
    refine Nat.lt_of_le_of_ne hw.place fun hsame => hkind ?_
    rw [Walk.ahead, hsame]
    exact Tokens.current_firstEnd hend
  exact ⟨hbefore, List.forall_mem_cons.mpr ⟨hbefore, hw.stood⟩, hw.passes, hw.elements⟩

theorem Tracks.look {kind : TokenKind} {next : Bool → Walker α}
    {outcome : Except ParseError (Parsed α)}
    (h : Tracks ts w (next ((w.ahead ts).at? kind)) outcome) :
    Tracks ts w (Walker.at? ts kind >>= next) outcome :=
  .after (Walker.walk_at? hend hw kind) h

theorem Tracks.refused (expected : Expected) :
    Tracks ts w (Walker.fail ts expected : Walker α) (refuse expected (w.ahead ts)) :=
  .error (Walker.walk_fail hend hw expected) hw

theorem Walker.walk_consume {kind : TokenKind} (hat : (w.ahead ts).at? kind) :
    (Walker.consume ts kind).walk w = some (.ok (w.ahead ts).current.text, w.advance) := by
  have hkind : (w.ahead ts).current.kind = kind := of_decide_eq_true hat
  rw [Walker.consume, Walker.walk_bind_ok (Walker.walk_current hend hw), if_pos hkind]
  rfl

theorem Tracks.consume {kind : TokenKind} (hkind : kind ≠ .eof) :
    Tracks ts w (Walker.consume ts kind) (expect kind (w.ahead ts)) := by
  have hahead := hw.ahead_eq hend
  by_cases hat : (w.ahead ts).at? kind
  · have hsame : (w.ahead ts).current.kind = kind := of_decide_eq_true hat
    have hwalk := Walker.walk_consume hend hw hat
    have hsound := hw.advance hend (hsame ▸ hkind)
    have hexpect : expect kind (w.ahead ts) =
        .ok ((w.ahead ts).current.text, w.advance.ahead ts) := by
      rw [hahead] at hsame ⊢
      exact if_pos hsame
    rw [hexpect]
    exact .ok hwalk hsound
  · have hother : (w.ahead ts).current.kind ≠ kind := fun hsame => hat (decide_eq_true hsame)
    have hfail := Tracks.refused hend hw (.kind kind) (α := Text)
    have hrefuse : expect kind (w.ahead ts) = refuse (.kind kind) (w.ahead ts) := by
      rw [hahead] at hother ⊢
      exact if_neg hother
    rw [hrefuse, Walker.consume]
    refine .after (Walker.walk_current hend hw) ?_
    rw [if_neg hother]
    exact hfail

/-- A token that is known to come next is consumed. -/
theorem Tracks.take {kind : TokenKind} {next : Text → Walker α}
    {outcome : Except ParseError (Parsed α)} (hat : (w.ahead ts).at? kind) (hkind : kind ≠ .eof)
    (hnext : ∀ w' : Walk, w'.ahead ts = (w.ahead ts).tail → w'.Sound ts →
      Tracks ts w' (next (w.ahead ts).current.text) outcome) :
    Tracks ts w (Walker.consume ts kind >>= next) outcome := by
  have hsame : (w.ahead ts).current.kind = kind := of_decide_eq_true hat
  have htail : w.advance.ahead ts = (w.ahead ts).tail := List.tail_drop.symm
  exact .after (Walker.walk_consume hend hw hat)
    (hnext _ htail (hw.advance hend (hsame ▸ hkind)))

end Looking

section Loops

variable {pass : Walker (β × Bool)} {readPass : Tokens → Except ParseError (Parsed (β × Bool))}
  {readAll : Tokens → Except ParseError (Parsed (List β))}

/-- A loop whose passes track a reader tracks the repeated reader. Each pass that is followed by
another has taken a token, so that there are no more passes than tokens, and one at the end. -/
theorem Tracks.loop (begins : Tokens → Prop) {bound : Nat}
    (hall : ∀ w : Walk, w.Sound ts → begins (w.ahead ts) →
      readAll (w.ahead ts) = readPass (w.ahead ts) >>= fun ((b, again), left) =>
        if again then readAll left >>= fun (more, left) => .ok (b :: more, left)
        else .ok ([b], left))
    (hpass : ∀ w : Walk, w.Sound ts → begins (w.ahead ts) →
      Tracks ts w pass (readPass (w.ahead ts)))
    (hagain : ∀ us b left, readPass us = .ok ((b, true), left) →
      left.length < us.length ∧ begins left)
    (hw : w.Sound ts) (hbegins : begins (w.ahead ts)) (hbound : (w.ahead ts).length < bound) :
    Tracks ts w (Walker.loop pass bound) (readAll (w.ahead ts)) := by
  induction bound generalizing w with
  | zero => exact absurd hbound (Nat.not_lt_zero _)
  | succ bound ih =>
    rw [hall w hw hbegins, Walker.loop]
    refine .after rfl ?_
    refine (hpass w hw hbegins).bind fun (b, again) w' hread hw' => ?_
    cases again with
    | false => exact .done hw' _
    | true =>
      obtain ⟨hshort, hbegins'⟩ := hagain _ _ _ hread
      have hnoted := hw'.notePass (Walk.place_lt_of_ahead hshort)
      have hrest := ih hnoted hbegins' (Nat.lt_of_lt_of_le hshort (Nat.le_of_lt_succ hbound))
      have hnote : Walker.walk (modifyThe Walk (·.notePass w.place)) w' =
          some (.ok ⟨⟩, w'.notePass w.place) := rfl
      refine .after hnote ?_
      exact hrest.bind fun more w'' _ hw'' => .done hw'' _

/-- What a reader reads, and whether something more is asked for behind it. -/
def readTold (asks : Tokens → Bool) (read : Tokens → Except ParseError (Parsed β)) (us : Tokens) :
    Except ParseError (Parsed (β × Bool)) := do
  let (b, left) ← read us
  return ((b, asks left), left)

/-- The same of a loop that asks before each of its passes. -/
theorem Tracks.loopWhile {asked : Walker Bool} {pass : Walker β}
    {readPass : Tokens → Except ParseError (Parsed β)} {bound : Nat} (asks : Tokens → Bool)
    (hasked : ∀ w : Walk, w.Sound ts → asked.walk w = some (.ok (asks (w.ahead ts)), w))
    (hall : ∀ w : Walk, w.Sound ts → readAll (w.ahead ts) =
      if asks (w.ahead ts) then readPass (w.ahead ts) >>= fun (b, left) =>
        readAll left >>= fun (more, left) => .ok (b :: more, left)
      else .ok ([], w.ahead ts))
    (hpass : ∀ w : Walk, w.Sound ts → Tracks ts w pass (readPass (w.ahead ts)))
    (hshort : ∀ us b left, readPass us = .ok (b, left) → left.length < us.length)
    (hw : w.Sound ts) (hbound : (w.ahead ts).length < bound) :
    Tracks ts w (Walker.loopWhile asked pass bound) (readAll (w.ahead ts)) := by
  refine .after (hasked w hw) ?_
  by_cases hbegins : asks (w.ahead ts)
  · rw [if_pos hbegins]
    have htold : ∀ w : Walk, w.Sound ts →
        Tracks ts w (do let b ← pass; return (b, ← asked)) (readTold asks readPass (w.ahead ts)) := by
      intro w hw
      refine (hpass w hw).bind fun b w' _ hw' => ?_
      exact .after (hasked w' hw') (.done hw' _)
    refine .loop (fun us => asks us) (fun w hw hbegins => ?_) (fun w hw _ => htold w hw)
      (fun us b left h => ?_) hw hbegins hbound
    · rw [hall w hw, if_pos hbegins, readTold]
      generalize hread : readPass (w.ahead ts) = outcome
      cases hread ▸ hpass w hw with
      | error => rfl
      | @ok b w' _ hw' =>
        show (readAll (w'.ahead ts) >>= fun (more, left) => .ok (b :: more, left)) =
          if asks (w'.ahead ts) then readAll (w'.ahead ts) >>= fun (more, left) =>
            .ok (b :: more, left)
          else .ok ([b], w'.ahead ts)
        split_ifs with hagain
        · rfl
        · rw [hall w' hw', if_neg hagain]
          rfl
    · obtain ⟨⟨b', left'⟩, hread, hb⟩ := bind_eq_ok_iff.mp h
      simp only [pure_eq_ok_iff, Prod.mk.injEq] at hb
      obtain ⟨⟨rfl, hasks⟩, rfl⟩ := hb
      exact ⟨hshort _ _ _ hread, hasks⟩
  · rw [if_neg hbegins, hall w hw, if_neg hbegins]
    exact .done hw _

end Loops

end Morphotactics
