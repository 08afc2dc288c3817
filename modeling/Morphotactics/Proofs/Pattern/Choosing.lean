import Morphotactics.Pattern
import Morphotactics.Proofs.Pattern.Division
import Mathlib.Data.List.Basic
import Mathlib.Data.Option.Basic

/-! Choices match where one of their alternatives does. -/
namespace Morphotactics.Pattern

variable {items : List Node} {alternatives : List (List Node)} {mode : Mode} {place last : Place}
  {rest : Rest}

theorem run_ofItems_append (first second : List Node) (place : Place) (rest : Rest) :
    (Node.ofItems (first ++ second)).run mode place rest =
      (Node.ofItems first).run mode place fun next => (Node.ofItems second).run mode next rest := by
  induction first generalizing place with
  | nil => rfl
  | cons item first ih =>
    have hmore : (fun next => (Node.ofItems (first ++ second)).run mode next rest) =
        fun next => (Node.ofItems first).run mode next fun next =>
          (Node.ofItems second).run mode next rest :=
      funext ih
    exact congrArg (item.run mode place) hmore

theorem take_eq_bind (isTaken : Char → Bool) (place : Place) (rest : Rest) :
    place.take isTaken rest = (place.take isTaken some).bind rest := by
  unfold Place.take
  cases place.after with
  | nil => rfl
  | cons c after =>
    dsimp only
    split_ifs <;> rfl

/-- A simple item leads to one place at most. -/
theorem run_eq_bind_of_isSimple {item : Node} (h : item.isSimple) (place : Place) (rest : Rest) :
    item.run mode place rest = (item.run mode place some).bind rest := by
  cases item with
  | one code => exact take_eq_bind _ place rest
  | notOne code => exact take_eq_bind _ place rest
  | any => exact take_eq_bind _ place rest
  | set negated members => exact take_eq_bind _ place rest
  | anchor a =>
    unfold Node.run
    split_ifs <;> rfl
  | again index =>
    unfold Node.run
    simp only [Option.bind_eq_bind, Option.bind_assoc, Option.bind_some]
  | _ => cases h

theorem run_ofItems_eq_bind (h : ∀ item ∈ items, item.isSimple) (place : Place) (rest : Rest) :
    (Node.ofItems items).run mode place rest =
      ((Node.ofItems items).run mode place some).bind rest := by
  induction items generalizing place with
  | nil => rfl
  | cons item items ih =>
    obtain ⟨hitem, hitems⟩ := List.forall_mem_cons.mp h
    have hstep : ∀ rest, item.run mode place rest = (item.run mode place some).bind rest :=
      run_eq_bind_of_isSimple hitem place
    calc (Node.ofItems (item :: items)).run mode place rest
        = (item.run mode place some).bind fun next =>
            (Node.ofItems items).run mode next rest := hstep _
      _ = (item.run mode place some).bind fun next =>
            ((Node.ofItems items).run mode next some).bind rest := by
          rw [funext fun next => ih hitems next]
      _ = ((item.run mode place some).bind fun next =>
            (Node.ofItems items).run mode next some).bind rest := (Option.bind_assoc _ _ _).symm
      _ = ((Node.ofItems (item :: items)).run mode place some).bind rest := by
          rw [← hstep]
          rfl

theorem run_eitherOf (hne : alternatives ≠ [])
    (h : (eitherOf alternatives).run mode place rest = some last) :
    ∃ items ∈ alternatives, (Node.ofItems items).run mode place rest = some last := by
  induction alternatives with
  | nil => exact absurd rfl hne
  | cons items alternatives ih =>
    cases alternatives with
    | nil => exact ⟨items, List.mem_singleton_self _, h⟩
    | cons next alternatives =>
      obtain h | ⟨-, h⟩ := (Option.orElse_eq_some _ _ _).mp h
      · exact ⟨items, List.mem_cons_self .., h⟩
      · obtain ⟨found, hmem, hfound⟩ := ih (List.cons_ne_nil _ _) h
        exact ⟨found, List.mem_cons_of_mem _ hmem, hfound⟩

/-- Behind simple items, a choice among what is left of the alternatives is one among the whole. -/
theorem run_append_eitherOf {left : List (List Node)} (hitems : ∀ item ∈ items, item.isSimple)
    (hne : left ≠ [])
    (h : (Node.ofItems (items ++ [eitherOf left])).run mode place rest = some last) :
    ∃ more ∈ left, (Node.ofItems (items ++ more)).run mode place rest = some last := by
  rw [run_ofItems_append, run_ofItems_eq_bind hitems] at h
  obtain ⟨next, hnext, h⟩ := Option.bind_eq_some_iff.mp h
  obtain ⟨more, hmore, h⟩ := run_eitherOf hne h
  refine ⟨more, hmore, ?_⟩
  rw [run_ofItems_append, run_ofItems_eq_bind hitems, hnext]
  exact h

theorem sharedHead_isSimple (n : Nat) (alternatives : List (List Node)) :
    ∀ item ∈ (sharedHead n alternatives).1, item.isSimple := by
  induction n generalizing alternatives with
  | zero => nofun
  | succ n ih =>
    rw [sharedHead]
    split
    · split_ifs with hshared
      · obtain ⟨hitem, -⟩ := Bool.and_eq_true_iff.mp hshared
        exact List.forall_mem_cons.mpr ⟨hitem, ih _⟩
      · nofun
    · nofun

/-- The shared items and what is left are the alternatives again. -/
theorem sharedHead_append (n : Nat) (alternatives : List (List Node)) :
    (sharedHead n alternatives).2.map ((sharedHead n alternatives).1 ++ ·) = alternatives := by
  induction n generalizing alternatives with
  | zero => exact List.map_id _
  | succ n ih =>
    rw [sharedHead]
    split
    · rename_i item _
      split_ifs with hshared
      · obtain ⟨-, hall⟩ := Bool.and_eq_true_iff.mp hshared
        calc (sharedHead n (alternatives.map List.tail)).2.map
              (item :: (sharedHead n (alternatives.map List.tail)).1 ++ ·)
            = ((sharedHead n (alternatives.map List.tail)).2.map
                ((sharedHead n (alternatives.map List.tail)).1 ++ ·)).map (item :: ·) := by
              rw [List.map_map]
              rfl
          _ = alternatives.map fun items => item :: items.tail := by
              rw [ih, List.map_map]
              rfl
          _ = alternatives.map id := List.map_congr_left fun items hmem =>
              List.cons_head?_tail (of_decide_eq_true (List.all_eq_true.mp hall items hmem))
          _ = alternatives := List.map_id _
      · exact List.map_id _
    · exact List.map_id _

/-- There are items, and none of them is an anchor. -/
def Unanchored (items : List Node) : Prop :=
  items ≠ [] ∧ ∀ place, .anchor place ∉ items

theorem unanchored_of_alternativeMembers? {members : List Member}
    (h : alternativeMembers? items = some members) : Unanchored items := by
  unfold alternativeMembers? at h
  split at h
  · exact ⟨List.cons_ne_nil _ _, by simp⟩
  · exact ⟨List.cons_ne_nil _ _, by simp⟩
  · cases h

theorem unanchored_of_mapM {left : List (List Node)} {members : List (List Member)}
    (h : left.mapM alternativeMembers? = some members) : ∀ items ∈ left, Unanchored items := by
  induction left generalizing members with
  | nil => nofun
  | cons first left ih =>
    rw [List.mapM_cons] at h
    obtain ⟨found, hfound, h⟩ := Option.bind_eq_some_iff.mp h
    obtain ⟨more, hmore, -⟩ := Option.bind_eq_some_iff.mp h
    exact List.forall_mem_cons.mpr ⟨unanchored_of_alternativeMembers? hfound, ih hmore⟩

/-- A match of a choice is one of an alternative, unless no alternative has an anchor behind the items
that all of them share. -/
theorem run_choice (hne : alternatives ≠ [])
    (h : (Node.ofItems (choice alternatives)).run mode place rest = some last) :
    (∃ items ∈ alternatives, (Node.ofItems items).run mode place rest = some last) ∨
      ∃ shared tail, choice alternatives = shared ++ tail ∧
        ∀ items ∈ alternatives, ∃ more, Unanchored more ∧ shared ++ more = items := by
  unfold choice at h ⊢
  split at h
  · exact .inl ⟨_, List.mem_singleton_self _, h⟩
  · dsimp only at h ⊢
    generalize (alternatives.map List.length).foldl max 0 = size at h ⊢
    have happend := sharedHead_append size alternatives
    cases hmembers : (sharedHead size alternatives).2.mapM alternativeMembers? with
    | some members =>
      refine .inr ⟨_, _, rfl, fun items hmem => ?_⟩
      rw [← happend] at hmem
      obtain ⟨more, hmore, hitems⟩ := List.mem_map.mp hmem
      exact ⟨more, unanchored_of_mapM hmembers more hmore, hitems⟩
    | none =>
      simp only [hmembers] at h
      have hleft : (sharedHead size alternatives).2 ≠ [] := by
        intro hnil
        rw [hnil, List.map_nil] at happend
        exact hne happend.symm
      obtain ⟨more, hmore, h⟩ :=
        run_append_eitherOf (sharedHead_isSimple size alternatives) hleft h
      have hmem := List.mem_map_of_mem (f := ((sharedHead size alternatives).1 ++ ·)) hmore
      rw [happend] at hmem
      exact .inl ⟨_, hmem, h⟩

/-- Only at the start of a text does the anchor of the start hold. -/
theorem before_eq_nil_of_run
    (h : (Node.ofItems (.anchor .lineStart :: items)).run startMode place rest = some last) :
    place.before = [] := by
  obtain ⟨hholds, -⟩ := Option.ite_none_right_eq_some.mp h
  simpa [Anchor.holds, startMode] using hholds

/-- The anchor of the end holds at the end of a text, and in front of a line break that ends it. -/
theorem after_of_run
    (h : (Node.ofItems (items ++ [.anchor .lineEnd])).run startMode place some = some last) :
    last.after = [] ∨ last.after = ['\n'] := by
  rw [run_ofItems_append] at h
  obtain ⟨next, -, h⟩ := run_advances _ _ _ _ _ h
  obtain ⟨hholds, hlast⟩ := Option.ite_none_right_eq_some.mp h
  obtain rfl := Option.some.inj hlast
  simpa [Anchor.holds, startMode] using hholds

theorem run_choice_opening {before : List Node} {others : List (List Node)}
    (h : (Node.ofItems (choice ((.anchor .lineStart :: before) :: others))).run startMode place
      some = some last) :
    place.before = [] ∨
      ∃ items ∈ others, (Node.ofItems items).run startMode place some = some last := by
  obtain ⟨items, hmem, hitems⟩ | ⟨shared, tail, hchoice, hshared⟩ :=
    run_choice (List.cons_ne_nil _ _) h
  · obtain rfl | hmem := List.mem_cons.mp hmem
    · exact .inl (before_eq_nil_of_run hitems)
    · exact .inr ⟨items, hmem, hitems⟩
  -- The anchor is among the items that the alternatives share.
  · obtain ⟨more, ⟨-, hanchor⟩, hmore⟩ := hshared _ (List.mem_cons_self ..)
    cases shared with
    | nil =>
      obtain rfl : more = _ := hmore
      exact absurd (List.mem_cons_self ..) (hanchor .lineStart)
    | cons item shared =>
      obtain ⟨rfl, -⟩ := List.cons.inj hmore
      rw [hchoice] at h
      exact .inl (before_eq_nil_of_run h)

theorem run_choice_closing {before : List Node} {others : List (List Node)}
    (h : (Node.ofItems (choice (others ++ [before ++ [.anchor .lineEnd]]))).run startMode place
      some = some last) :
    (last.after = [] ∨ last.after = ['\n']) ∨
      ∃ items ∈ others, (Node.ofItems items).run startMode place some = some last := by
  obtain ⟨items, hmem, hitems⟩ | ⟨shared, tail, -, hshared⟩ :=
    run_choice (List.append_ne_nil_of_right_ne_nil _ (List.cons_ne_nil _ _)) h
  · obtain hmem | hmem := List.mem_append.mp hmem
    · exact .inr ⟨items, hmem, hitems⟩
    · obtain rfl := List.mem_singleton.mp hmem
      exact .inl (after_of_run hitems)
  -- The last alternative has an anchor at its end, behind whatever the alternatives share.
  · obtain ⟨more, ⟨hne, hanchor⟩, hmore⟩ :=
      hshared _ (List.mem_append_right _ (List.mem_cons_self ..))
    have hlast : more.getLast? = some (.anchor .lineEnd) := by
      rw [← List.getLast?_append_of_ne_nil shared hne, hmore, List.getLast?_concat]
    exact absurd (List.mem_of_getLast? hlast) (hanchor .lineEnd)

end Morphotactics.Pattern
