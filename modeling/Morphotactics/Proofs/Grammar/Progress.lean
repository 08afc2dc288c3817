import Morphotactics.Proofs.Grammar.Predictive
import Morphotactics.Proofs.Grammar.Relocation
import Morphotactics.Proofs.Grammar.Walking

/-! The walk over the tokens of a grammar tracks its readers, part by part. So it always goes on,
ends, and never comes behind the first end token. -/
namespace Morphotactics

variable {ts : Tokens} {w : Walk} {bound : Nat} (hend : ∃ t ∈ ts, t.kind = .eof)
  (hw : w.Sound ts) (hbound : ts.length < bound)

section Definitions

/-- A definition with the comma behind it, which only the last definition need not have. -/
def readListedDefinition (us : Tokens) : Except ParseError (Parsed SuffixDefinition) := do
  let (d, left) ← readDefinition us
  if left.at? .comma then return (d, left.tail)
  else if left.at? .rightBrace then return (d, left)
  else refuse .definitionEnd left

theorem readListedDefinition_length {us : Tokens} :
    Leaves (· < us.length) (readListedDefinition us) := by
  refine readDefinition_length.bind fun d left hlength => ?_
  dsimp only
  split_ifs
  · exact .ok (Nat.lt_of_le_of_lt (List.tail_sublist left).length_le hlength)
  · exact .ok hlength
  · exact .refuse

theorem readBody_listed (us : Tokens) : readBody us =
    if us.at? .rightBrace then .ok ([], us)
    else do
      let (d, left) ← readListedDefinition us
      let (more, left) ← readBody left
      return (d :: more, left) := by
  rw [readBody_eq us, readListedDefinition]
  split_ifs
  · rfl
  · cases readDefinition us with
    | error e => rfl
    | ok read =>
      obtain ⟨d, left⟩ := read
      dsimp only [bind, Except.bind]
      split_ifs with hcomma hbrace
      · rfl
      · show _ = (readBody left).bind fun read => .ok (d :: read.1, read.2)
        rw [readBody_eq left, if_pos hbrace]
        rfl
      · rfl

include hend hw

theorem operand_tracks (kind : ConditionKind) :
    Tracks ts w (Walker.operand ts kind) (readOperand kind (w.ahead ts)) := by
  rw [Walker.operand, readOperand]
  refine .look hend hw ?_
  split_ifs
  · exact (Tracks.consume hend hw (by decide)).bind fun _ _ _ hw => .done hw _
  · refine .look hend hw ?_
    split_ifs
    exact (Tracks.consume hend hw (by decide)).bind fun _ _ _ hw => .done hw _
  · refine .look hend hw ?_
    split_ifs
    exact .refused hend hw _

theorem guard_tracks : Tracks ts w (Walker.guard ts) (readGuard (w.ahead ts)) := by
  rw [Walker.guard, readGuard]
  refine .after (Walker.walk_current hend hw) ?_
  generalize hkind : (w.ahead ts).current.kind = kind
  cases kind
  case endsWith | startsWith =>
    refine .take hend hw (decide_eq_true hkind) (by decide) fun w htail hw => ?_
    rw [← htail]
    exact operand_tracks hend hw _
  case isVowel | isConsonant =>
    refine .take hend hw (decide_eq_true hkind) (by decide) fun w htail hw => ?_
    rw [← htail]
    exact .done hw _
  all_goals exact .done hw _

theorem change_tracks (asked : Condition) :
    Tracks ts w (Walker.change ts asked) (readChange asked (w.ahead ts)) := by
  rw [Walker.change, readChange]
  refine .look hend hw ?_
  split_ifs with hcut hreplace
  · refine .take hend hw hcut (by decide) fun w htail hw => ?_
    rw [← htail]
    refine (Tracks.consume hend hw (by decide)).bind fun spelled w _ hw => ?_
    dsimp only
    cases readInteger spelled with
    | ok cut => exact .done hw _
    | error fault => exact .throws hw _
  · refine .look hend hw ?_
    rw [if_pos hreplace]
    refine .take hend hw hreplace (by decide) fun w htail hw => ?_
    rw [← htail]
    exact (Tracks.consume hend hw (by decide)).bind fun _ _ _ hw => .done hw _
  · refine .look hend hw ?_
    rw [if_neg hreplace]
    exact .done hw _

theorem condition_tracks : Tracks ts w (Walker.condition ts) (readCondition (w.ahead ts)) := by
  rw [Walker.condition, readCondition]
  refine .look hend hw ?_
  split_ifs with hwhen
  · refine .take hend hw hwhen (by decide) fun w htail hw => ?_
    rw [← htail]
    exact (guard_tracks hend hw).bind fun asked w _ hw => change_tracks hend hw asked
  · exact .done hw _

theorem gloss_tracks : Tracks ts w (Walker.gloss ts) (readGloss (w.ahead ts)) := by
  refine (Tracks.consume hend hw (by decide)).bind fun key w _ hw => ?_
  refine (Tracks.consume hend hw (by decide)).bind fun mark w _ hw => ?_
  exact (Tracks.consume hend hw (by decide)).bind fun gloss w _ hw => .done hw _

theorem definition_tracks : Tracks ts w (Walker.definition ts) (readDefinition (w.ahead ts)) := by
  refine (gloss_tracks hend hw).bind fun gloss w _ hw => ?_
  exact (condition_tracks hend hw).bind fun asked w _ hw => .done hw _

theorem listedDefinition_tracks :
    Tracks ts w (Walker.definitions.listed ts) (readListedDefinition (w.ahead ts)) := by
  refine (definition_tracks hend hw).bind fun d w _ hw => ?_
  refine .look hend hw ?_
  dsimp only
  split_ifs with hcomma hbrace
  · refine .take hend hw hcomma (by decide) fun w htail hw => ?_
    rw [← htail]
    exact .done hw _
  · refine .look hend hw ?_
    rw [if_pos hbrace]
    exact .done hw _
  · refine .look hend hw ?_
    rw [if_neg hbrace]
    exact .refused hend hw _

include hbound in
theorem definitions_tracks :
    Tracks ts w (Walker.definitions ts bound) (readBody (w.ahead ts)) := by
  refine .loopWhile (fun us => !us.at? .rightBrace) (fun w hw => ?_) (fun w hw => ?_)
    (fun w hw => ?_) (fun _ _ _ h => readListedDefinition_length h) hw
      (Nat.lt_of_le_of_lt (w.ahead_length_le ts) hbound)
  · rw [Walker.walk_bind_ok (Walker.walk_at? hend hw _)]
    rfl
  · rw [readBody_listed]
    cases (w.ahead ts).at? .rightBrace <;> rfl
  · exact listedDefinition_tracks hend hw

end Definitions

section Alternatives

/-- A text with its gloss, and whether a comma has been read behind it. -/
def readListedGloss (us : Tokens) : Except ParseError (Parsed ((Text × Text) × Bool)) := do
  let (g, left) ← readGloss us
  if left.at? .comma then return ((g, true), left.tail) else return ((g, false), left)

/-- An element with the plus behind it, if there is one. -/
def readJoinedElement (us : Tokens) : Except ParseError (Parsed Element) := do
  let (e, left) ← readElement us
  return (e, skipPlus left)

/-- An alternative with the comma behind it, and whether another alternative comes. -/
def readListedAlternative (us : Tokens) : Except ParseError (Parsed (Alternative × Bool)) := do
  let (a, left) ← readAlternative us
  if left.at? .comma then return ((a, !Tokens.at? left.tail .rightBrace), left.tail)
  else return ((a, false), left)

include hend hw

theorem listedGloss_tracks :
    Tracks ts w (Walker.glosses.listed ts) (readListedGloss (w.ahead ts)) := by
  refine (gloss_tracks hend hw).bind fun g w _ hw => ?_
  refine .look hend hw ?_
  dsimp only
  split_ifs with hcomma
  · refine .take hend hw hcomma (by decide) fun w htail hw => ?_
    rw [← htail]
    exact .done hw _
  · exact .done hw _

omit hend hw hbound in
theorem readGlosses_listed (us : Tokens) : readGlosses us =
    readListedGloss us >>= fun ((g, again), left) =>
      if again then readGlosses left >>= fun (more, left) => .ok (g :: more, left)
      else .ok ([g], left) := by
  rw [readGlosses_eq, readListedGloss]
  cases readGloss us with
  | error e => rfl
  | ok read =>
    obtain ⟨g, left⟩ := read
    dsimp only [bind, Except.bind]
    split_ifs <;> rfl

omit hend hw hbound in
theorem readListedGloss_length {us : Tokens} :
    Leaves (· < us.length) (readListedGloss us) := by
  refine readGloss_length.bind fun g left hlength => ?_
  dsimp only
  split_ifs
  · exact .ok (Nat.lt_of_le_of_lt (List.tail_sublist left).length_le hlength)
  · exact .ok hlength

include hbound

theorem glosses_tracks : Tracks ts w (Walker.glosses ts bound) (readGlosses (w.ahead ts)) :=
  .loop (fun _ => True) (fun _ _ _ => readGlosses_listed _)
    (fun _ hw _ => listedGloss_tracks hend hw)
    (fun _ _ _ h => ⟨readListedGloss_length h, trivial⟩) hw trivial
    (Nat.lt_of_le_of_lt (w.ahead_length_le ts) hbound)

theorem inside_tracks {inner : Walker Element} (hinner : ∀ w' : Walk, w'.Sound ts →
      (w'.ahead ts).length < (w.ahead ts).length →
      Tracks ts w' inner (readElement (w'.ahead ts))) :
    Tracks ts w (Walker.element.inside ts bound inner) (readElement (w.ahead ts)) := by
  obtain ⟨t, us, hahead⟩ : ∃ t us, w.ahead ts = t :: us := ⟨_, _, hw.ahead_eq hend⟩
  have htail : (w.ahead ts).tail = us := by rw [hahead]; rfl
  have hkind : (w.ahead ts).current.kind = t.kind := by rw [hahead]; rfl
  have hrefuse : refuse (α := Parsed Element) .element (t :: us) =
      refuse .element (w.ahead ts) := by rw [hahead]
  rw [Walker.element.inside, hahead, readElement]
  refine .after (Walker.walk_current hend hw) ?_
  rw [hkind]
  generalize t.kind = kind at hkind
  cases kind
  case leftBrace =>
    refine .take hend hw (decide_eq_true hkind) (by decide) fun w htail' hw => ?_
    rw [← htail, ← htail']
    refine (glosses_tracks hend hw hbound).bind fun options w _ hw => ?_
    exact (Tracks.consume hend hw (by decide)).bind fun mark w _ hw => .done hw _
  case leftBracket =>
    refine .take hend hw (decide_eq_true hkind) (by decide) fun w' htail' hw' => ?_
    have hshort : (w'.ahead ts).length < (w.ahead ts).length := by
      rw [htail', hahead]
      exact Nat.lt_succ_self _
    rw [← htail, ← htail']
    refine (hinner w' hw' hshort).bind fun child w _ hw => ?_
    exact (Tracks.consume hend hw (by decide)).bind fun mark w _ hw => .done hw _
  case atSign =>
    refine .take hend hw (decide_eq_true hkind) (by decide) fun w htail' hw => ?_
    rw [← htail, ← htail']
    exact (Tracks.consume hend hw (by decide)).bind fun name w _ hw => .done hw _
  case identifier =>
    refine .take hend hw (decide_eq_true hkind) (by decide) fun w' htail' hw => ?_
    have htext : (w.ahead ts).current.text = t.text := by rw [hahead]; rfl
    rw [htext, ← htail, ← htail']
    exact .done hw _
  all_goals exact hrefuse ▸ .refused hend hw _

/-- Each reading of an element takes a token, so that brackets within brackets come to an end. -/
theorem element_tracks {depth : Nat} (hdepth : (w.ahead ts).length < depth) :
    Tracks ts w (Walker.element ts bound depth) (readElement (w.ahead ts)) := by
  induction depth generalizing w with
  | zero => exact absurd hdepth (Nat.not_lt_zero _)
  | succ depth ih =>
    have hinside := inside_tracks hend hw hbound fun w' hw' hshort =>
      ih hw' (Nat.lt_of_lt_of_le hshort (Nat.le_of_lt_succ hdepth))
    rw [Walker.element, ← bind_pure (readElement (w.ahead ts))]
    refine .after rfl ?_
    refine hinside.bind fun e w' hread hw' => ?_
    have hnoted := hw'.noteElement (Walk.place_lt_of_ahead (readElement_length hread))
    have hnote : Walker.walk (modifyThe Walk (·.noteElement w.place)) w' =
        some (.ok ⟨⟩, w'.noteElement w.place) := rfl
    exact .after hnote (.done hnoted _)

theorem joinedElement_tracks :
    Tracks ts w (Walker.alternative.joined ts bound) (readJoinedElement (w.ahead ts)) := by
  have hdepth := Nat.lt_of_le_of_lt (w.ahead_length_le ts) hbound
  refine (element_tracks hend hw hbound hdepth).bind fun e w _ hw => ?_
  refine .look hend hw ?_
  dsimp only
  rw [skipPlus]
  split_ifs with hplus
  · refine .take hend hw hplus (by decide) fun w htail hw => ?_
    rw [← htail]
    exact .done hw _
  · exact .done hw _

omit hend hw hbound in
theorem readAlternative_joined (us : Tokens) : readAlternative us =
    if us.at? .comma || us.at? .rightBrace then .ok ([], us)
    else do
      let (e, left) ← readJoinedElement us
      let (more, left) ← readAlternative left
      return (e :: more, left) := by
  rw [readAlternative_eq, readJoinedElement]
  cases readElement us <;> rfl

omit hend hw hbound in
theorem readJoinedElement_length {us : Tokens} :
    Leaves (· < us.length) (readJoinedElement us) :=
  readElement_length.bind fun _ left hlength =>
    .ok (Nat.lt_of_le_of_lt (skipPlus_length left) hlength)

theorem alternative_tracks :
    Tracks ts w (Walker.alternative ts bound) (readAlternative (w.ahead ts)) := by
  refine .loopWhile (fun us => !(us.at? .comma || us.at? .rightBrace)) (fun w hw => ?_)
    (fun w hw => ?_) (fun w hw => joinedElement_tracks hend hw hbound)
    (fun _ _ _ h => readJoinedElement_length h) hw
    (Nat.lt_of_le_of_lt (w.ahead_length_le ts) hbound)
  · rw [Walker.walk_bind_ok (Walker.walk_at? hend hw _),
      Walker.walk_bind_ok (Walker.walk_at? hend hw _)]
    rfl
  · rw [readAlternative_joined]
    cases (w.ahead ts).at? .comma || (w.ahead ts).at? .rightBrace <;> rfl

theorem listedAlternative_tracks :
    Tracks ts w (Walker.alternatives.listed ts bound) (readListedAlternative (w.ahead ts)) := by
  refine (alternative_tracks hend hw hbound).bind fun a w _ hw => ?_
  refine .look hend hw ?_
  dsimp only
  split_ifs with hcomma
  · refine .take hend hw hcomma (by decide) fun w htail hw => ?_
    rw [← htail]
    exact .look hend hw (.done hw _)
  · exact .done hw _

omit hend hw hbound in
theorem readAlternatives_listed (us : Tokens) : readAlternatives us =
    readListedAlternative us >>= fun ((a, again), left) =>
      if again then readAlternatives left >>= fun (more, left) => .ok (a :: more, left)
      else .ok ([a], left) := by
  rw [readAlternatives_eq, readListedAlternative]
  cases readAlternative us with
  | error e => rfl
  | ok read =>
    obtain ⟨a, left⟩ := read
    dsimp only [bind, Except.bind]
    split_ifs with hcomma hbrace
    · simp [hbrace, pure, Except.pure]
    · simp [hbrace, pure, Except.pure]
    · rfl

omit hend hw hbound in
theorem readListedAlternative_length {us left : Tokens} {a : Alternative}
    (h : readListedAlternative us = .ok ((a, true), left)) : left.length < us.length := by
  obtain ⟨⟨a', between⟩, hread, h⟩ := bind_eq_ok_iff.mp h
  have hlength := readAlternative_length hread
  dsimp only at h
  split_ifs at h with hcomma
  · obtain ⟨-, rfl⟩ := Prod.mk.inj (Except.ok.inj h)
    have hpos := List.length_pos_iff.mpr (Tokens.ne_nil_of_at? hcomma (by decide))
    rw [List.length_tail]
    omega
  · cases h

theorem alternatives_tracks :
    Tracks ts w (Walker.alternatives ts bound) (readAlternatives (w.ahead ts)) :=
  .loop (fun _ => True) (fun _ _ _ => readAlternatives_listed _)
    (fun _ hw _ => listedAlternative_tracks hend hw hbound)
    (fun _ _ _ h => ⟨readListedAlternative_length h, trivial⟩) hw trivial
    (Nat.lt_of_le_of_lt (w.ahead_length_le ts) hbound)

end Alternatives

section Declarations

include hend hw

theorem description_tracks :
    Tracks ts w (Walker.header.description ts) (readDescription (w.ahead ts)) := by
  rw [Walker.header.description, readDescription]
  refine .look hend hw ?_
  split_ifs
  · refine (Tracks.consume hend hw (by decide)).bind fun mark w _ hw => ?_
    exact .consume hend hw (by decide)
  · exact .done hw _

theorem header_tracks {keyword : TokenKind} (hkeyword : keyword ≠ .eof) :
    Tracks ts w (Walker.header ts keyword) (readHeader keyword (w.ahead ts)) := by
  refine (Tracks.consume hend hw hkeyword).bind fun word w _ hw => ?_
  refine (Tracks.consume hend hw (by decide)).bind fun name w _ hw => ?_
  refine (description_tracks hend hw).bind fun description w _ hw => ?_
  exact (Tracks.consume hend hw (by decide)).bind fun mark w _ hw => .done hw _

include hbound in
theorem declaration_tracks :
    Tracks ts w (Walker.declaration ts bound) (readDeclaration (w.ahead ts)) := by
  rw [Walker.declaration, readDeclaration_eq]
  refine .look hend hw ?_
  split_ifs with hsuffix hrule
  · refine (header_tracks hend hw (by decide)).bind fun header w _ hw => ?_
    refine (definitions_tracks hend hw hbound).bind fun parts w _ hw => ?_
    exact (Tracks.consume hend hw (by decide)).bind fun mark w _ hw => .done hw _
  · refine .look hend hw ?_
    rw [if_pos hrule]
    refine (header_tracks hend hw (by decide)).bind fun header w _ hw => ?_
    refine (alternatives_tracks hend hw hbound).bind fun parts w _ hw => ?_
    exact (Tracks.consume hend hw (by decide)).bind fun mark w _ hw => .done hw _
  · refine .look hend hw ?_
    rw [if_neg hrule]
    exact .refused hend hw _

end Declarations

section Runs

/-- The declarations, if all of them can be read. -/
def Reading.outcome (r : Reading) : Except ParseError (List Declaration) :=
  r.ending.map fun _ => r.declarations

/-- All declarations, which are read up to the first end token of the given list. -/
def readAllDeclarations (ts us : Tokens) : Except ParseError (Parsed (List Declaration)) :=
  (readDeclarations us).outcome.map (·, ts.drop ts.firstEnd)

/-- Where the cursor is at an end token, it is at the first one. -/
theorem Walk.Sound.ahead_of_at? (hw : w.Sound ts) (hat : (w.ahead ts).at? .eof) :
    w.ahead ts = ts.drop ts.firstEnd := by
  obtain hbefore | hsame := Nat.lt_or_eq_of_le hw.place
  · have hlt : w.place < ts.length := Nat.lt_of_lt_of_le hbefore List.findIdx_le_length
    have hcurrent : (w.ahead ts).current = ts[w.place] := by
      rw [Walk.ahead, List.drop_eq_getElem_cons hlt]
      rfl
    have hother := List.not_of_lt_findIdx hbefore
    rw [← hcurrent] at hother
    exact absurd (of_decide_eq_true hat) (by simpa using hother)
  · rw [Walk.ahead, hsame]

theorem Walk.Sound.readAllDeclarations_eq (hw : w.Sound ts) :
    readAllDeclarations ts (w.ahead ts) =
      if !(w.ahead ts).at? .eof then do
        let (d, left) ← readDeclaration (w.ahead ts)
        let (more, left) ← readAllDeclarations ts left
        return (d :: more, left)
      else .ok ([], w.ahead ts) := by
  rw [readAllDeclarations, readDeclarations_eq (w.ahead ts)]
  cases hat : (w.ahead ts).at? .eof with
  | true =>
    rw [hw.ahead_of_at? hat]
    rfl
  | false =>
    cases readDeclaration (w.ahead ts) with
    | error e => rfl
    | ok read =>
      obtain ⟨d, left⟩ := read
      dsimp only [bind, Except.bind]
      rw [readAllDeclarations, Reading.outcome, Reading.outcome]
      cases (readDeclarations left).ending <;> rfl

include hend hw hbound in
theorem declarations_track :
    Tracks ts w (Walker.declarations ts bound) (readAllDeclarations ts (w.ahead ts)) := by
  refine .loopWhile (fun us => !us.at? .eof) (fun w hw => ?_)
    (fun w hw => hw.readAllDeclarations_eq) (fun w hw => declaration_tracks hend hw hbound)
    (fun _ _ _ h => readDeclaration_length h) hw (Nat.lt_of_le_of_lt (w.ahead_length_le ts) hbound)
  rw [Walker.walk_bind_ok (Walker.walk_at? hend hw _)]
  rfl

theorem Walk.start_sound (ts : Tokens) : Walk.start.Sound ts :=
  ⟨Nat.zero_le _, by simp [Walk.start], by simp [Walk.start], by simp [Walk.start]⟩

/-- A walk is finished within one bound and all the greater ones, at the outcome of reading the same
tokens. -/
theorem declarations_walk (hend : ∃ t ∈ ts, t.kind = .eof) :
    ∃ w, (∀ bound, ts.length < bound →
        (Walker.declarations ts bound).walk .start = some ((readDeclarations ts).outcome, w)) ∧
      w.Sound ts := by
  have htrack := declarations_track hend (Walk.start_sound ts) (Nat.lt_succ_self ts.length)
  obtain ⟨w, hwalk, hw⟩ := htrack.outcome
  refine ⟨w, fun bound hbound => ?_, hw⟩
  refine (Walker.declarations_extends hbound _ _ hwalk).trans ?_
  rw [readAllDeclarations]
  show some (Except.map _ (Except.map _ (readDeclarations ts).outcome), w) = _
  cases (readDeclarations ts).outcome <;> rfl

/-- What is behind the first end token may be anything. -/
theorem Tokens.moved_behind_firstEnd (hend : ∃ t ∈ ts, t.kind = .eof) (others : Tokens) :
    Tokens.Moved id ts (ts.take (ts.firstEnd + 1) ++ others) := by
  induction ts with
  | nil => simp at hend
  | cons t rest ih =>
    by_cases hkind : t.kind = .eof
    · have hfirst : Tokens.firstEnd (t :: rest) = 0 := by
        simp [Tokens.firstEnd, List.findIdx_cons, hkind]
      rw [hfirst]
      exact .ended hkind
    · have hfirst : Tokens.firstEnd (t :: rest) = Tokens.firstEnd rest + 1 := by
        simp [Tokens.firstEnd, List.findIdx_cons, hkind]
      rw [hfirst]
      exact .cons (ih (by simpa [hkind] using hend))

theorem Reading.moved_id (r : Reading) : r.moved id = r := by
  obtain ⟨declarations, unfinished, ending⟩ := r
  cases ending with
  | ok => rfl
  | error e => cases e <;> rfl

/-- The grammar of the declarations that a walk has come to. -/
def Loading.built (serial : Nat) (outcome : Except ParseError (List Declaration)) :
    Except LoadError Grammar :=
  (outcome.map (Grammar.ofDeclarations serial)).mapError .parse

theorem Loading.ofTokens_outcome (serial : Nat) (hend : ts.getLast?.map (·.kind) = some .eof) :
    (Loading.ofTokens serial ts).outcome = Loading.built serial (readDeclarations ts).outcome := by
  rw [Loading.ofTokens, if_pos hend]
  dsimp only
  rw [Reading.outcome]
  cases (readDeclarations ts).ending <;> rfl

/-- The walk over tokens that end with an end token is finished, with the outcome of loading them.
Its cursor never stands behind the first end token, and each pass of a loop that is followed by
another has taken a token, as has each element. Nothing behind that token makes a difference. -/
theorem walk_to_first_end (serial : Nat) {ts : Tokens}
    (hend : ts.getLast?.map (·.kind) = some .eof) :
    ∃ outcome w, (∀ bound, ts.length < bound →
        (Walker.declarations ts bound).walk .start = some (outcome, w)) ∧
      (Loading.ofTokens serial ts).outcome = Loading.built serial outcome ∧
      (∀ p ∈ w.stood, p ≤ ts.firstEnd ∧ p < ts.length) ∧
      (∀ p ∈ w.passes, p.1 < p.2) ∧ (∀ p ∈ w.elements, p.1 < p.2) ∧
      ∀ (others : Tokens) (last : Token), last.kind = .eof →
        let replaced := ts.take (ts.firstEnd + 1) ++ (others ++ [last])
        (∃ w', ∀ bound, replaced.length < bound →
          (Walker.declarations replaced bound).walk .start = some (outcome, w')) ∧
          (Loading.ofTokens serial replaced).outcome = (Loading.ofTokens serial ts).outcome := by
  have hlast : ∃ t ∈ ts, t.kind = .eof := by
    obtain ⟨t, ht, hkind⟩ := Option.map_eq_some_iff.mp hend
    exact ⟨t, List.mem_of_getLast? ht, hkind⟩
  obtain ⟨w, hwalk, hw⟩ := declarations_walk hlast
  have hloaded := Loading.ofTokens_outcome serial hend
  refine ⟨_, w, hwalk, hloaded, fun p hp => ?_, hw.passes, hw.elements, fun others last hkind => ?_⟩
  · exact ⟨hw.stood p hp, Nat.lt_of_le_of_lt (hw.stood p hp) (Tokens.firstEnd_lt hlast)⟩
  · intro replaced
    have hread : readDeclarations replaced = readDeclarations ts := by
      rw [readDeclarations_moved (Tokens.moved_behind_firstEnd hlast (others ++ [last])),
        Reading.moved_id]
    have hend' : replaced.getLast?.map (·.kind) = some .eof := by
      simp [replaced, hkind]
    have hlast' : ∃ t ∈ replaced, t.kind = .eof := ⟨last, by simp [replaced], hkind⟩
    obtain ⟨w', hwalk', -⟩ := declarations_walk hlast'
    rw [hread] at hwalk'
    exact ⟨⟨w', hwalk'⟩, by rw [Loading.ofTokens_outcome serial hend', hloaded, hread]⟩

/-- A rule whose brace is closed only behind an end token. -/
def unclosedRule : Tokens :=
  [(TokenKind.rule, "RULE"), (.identifier, "r"), (.leftBrace, "\x7b"), (.leftBracket, "["),
    (.atSign, "@"), (.identifier, "s"), (.rightBracket, "]"), (.eof, ""), (.rightBrace, "\x7d"),
    (.eof, "")].map fun (kind, text) => ⟨kind, text.toList, .start⟩

/-- The walk ends at the first end token. The brace behind it is never stood at. -/
theorem unclosedRule_walk : unclosedRule.getLast?.map (·.kind) = some .eof ∧
    unclosedRule.firstEnd = 7 ∧
    ∃ outcome w, (Walker.declarations unclosedRule 11).walk .start = some (outcome, w) ∧
      ∀ p ∈ w.stood, p ≤ 7 := by
  obtain ⟨outcome, w, hwalk, -, hstood, -⟩ :=
    walk_to_first_end 1 (show unclosedRule.getLast?.map (·.kind) = some .eof from rfl)
  exact ⟨rfl, rfl, outcome, w, hwalk 11 (by decide), fun p hp => (hstood p hp).1⟩

end Runs

end Morphotactics
