import Morphotactics.Pattern
import Mathlib.Data.List.Basic

/-! Matches as divisions of a text: a search takes characters one after the other, so that a match
and what stands before and after it make up the text. -/
namespace Morphotactics.Pattern

/-- The same place, or one further on in the same text. -/
def Place.LeadsTo (first second : Place) : Prop :=
  ∃ taken, first.after = taken ++ second.after ∧ second.before = taken.reverse ++ first.before

theorem Place.leadsTo_self (place : Place) (captures : List (Nat × Text)) :
    place.LeadsTo { place with captures := captures } :=
  ⟨[], rfl, rfl⟩

theorem Place.LeadsTo.trans {a b c : Place} (hab : a.LeadsTo b) (hbc : b.LeadsTo c) :
    a.LeadsTo c := by
  obtain ⟨first, hafter, hbefore⟩ := hab
  obtain ⟨second, hafter', hbefore'⟩ := hbc
  refine ⟨first ++ second, ?_, ?_⟩
  · rw [hafter, hafter', List.append_assoc]
  · rw [hbefore', hbefore, List.reverse_append, List.append_assoc]

/-- A step succeeds only if its rest does, from the same place or from one further on. -/
def Advances (step : Step) : Prop :=
  ∀ place rest last, step place rest = some last →
    ∃ next, place.LeadsTo next ∧ rest next = some last

private theorem eq_some_of_orElse {α : Type} {first second : Option α} {last : α}
    (h : (first <|> second) = some last) : first = some last ∨ second = some last := by
  cases first with
  | none => exact .inr h
  | some => exact .inl h

theorem take_advances (isTaken : Char → Bool) : Advances fun place => place.take isTaken := by
  intro place rest last h
  obtain ⟨before, after, captures⟩ := place
  cases after with
  | nil => cases h
  | cons c after =>
    obtain ⟨-, h⟩ := Option.ite_none_right_eq_some.mp h
    exact ⟨_, ⟨[c], rfl, rfl⟩, h⟩

theorem takeText_leadsTo {alike : Char → Char → Bool} {place next : Place} {text : Text}
    (h : place.takeText alike text = some next) : place.LeadsTo next := by
  induction text generalizing place with
  | nil =>
    obtain rfl := Option.some.inj h
    exact place.leadsTo_self _
  | cons c text ih =>
    obtain ⟨middle, hmiddle, h⟩ := take_advances (alike c) place _ next h
    exact hmiddle.trans (ih h)

section Repetition

variable {step : Step}

theorem exactly_advances (hs : Advances step) (n : Nat) : Advances (exactly step n) := by
  intro place rest last h
  induction n generalizing place with
  | zero => exact ⟨place, place.leadsTo_self _, h⟩
  | succ n ih =>
    obtain ⟨middle, hmiddle, h⟩ := hs place _ last h
    obtain ⟨next, hnext, h⟩ := ih middle h
    exact ⟨next, hmiddle.trans hnext, h⟩

/-- One more repetition, and the rest at once if it has taken nothing. -/
private theorem repeat_advances (hs : Advances step) {again : Option Nat → Step}
    (ih : ∀ most, Advances (again most)) {most : Option Nat} {place last : Place} {rest : Rest}
    (h : (if most = some 0 then none
      else step place fun next =>
        if next.after.length < place.after.length then again (most.map (· - 1)) next rest
        else rest next) = some last) :
    ∃ next, place.LeadsTo next ∧ rest next = some last := by
  obtain ⟨-, h⟩ := Option.ite_none_left_eq_some.mp h
  obtain ⟨middle, hmiddle, h⟩ := hs place _ last h
  split_ifs at h
  · obtain ⟨next, hnext, h⟩ := ih _ middle rest last h
    exact ⟨next, hmiddle.trans hnext, h⟩
  · exact ⟨middle, hmiddle, h⟩

theorem greedily_advances (hs : Advances step) (n : Nat) (most : Option Nat) :
    Advances (greedily step n most) := by
  induction n generalizing most with
  | zero => exact fun place rest last h => ⟨place, place.leadsTo_self _, h⟩
  | succ n ih =>
    intro place rest last h
    obtain h | h := eq_some_of_orElse h
    · exact repeat_advances hs ih h
    · exact ⟨place, place.leadsTo_self _, h⟩

theorem lazily_advances (hs : Advances step) (n : Nat) (most : Option Nat) :
    Advances (lazily step n most) := by
  induction n generalizing most with
  | zero => exact fun place rest last h => ⟨place, place.leadsTo_self _, h⟩
  | succ n ih =>
    intro place rest last h
    obtain h | h := eq_some_of_orElse h
    · exact ⟨place, place.leadsTo_self _, h⟩
    · exact repeat_advances hs ih h

theorem once_advances (hs : Advances step) : Advances (once step) := by
  intro place rest last h
  obtain ⟨next, hnext, h⟩ := Option.bind_eq_some_iff.mp h
  obtain ⟨_, hleads, hsame⟩ := hs place some next hnext
  obtain rfl := Option.some.inj hsame
  exact ⟨_, hleads, h⟩

theorem repetition_advances (hs : Advances step) (greed : Greed) (least : Nat)
    (most : Option Nat) : Advances (repetition greed step least most) := by
  -- The second step may depend on the place that the first has led to: it is bounded by what is
  -- left of the text there.
  have hthen : ∀ {first : Step} {second : Place → Step}, Advances first →
      (∀ place, Advances (second place)) →
        Advances fun place rest => first place fun next => second next next rest := by
    intro first second hfirst hsecond place rest last h
    obtain ⟨middle, hmiddle, h⟩ := hfirst place _ last h
    obtain ⟨next, hnext, h⟩ := hsecond middle middle rest last h
    exact ⟨next, hmiddle.trans hnext, h⟩
  cases greed with
  | greedy => exact hthen (exactly_advances hs least) fun _ => greedily_advances hs _ _
  | lazy => exact hthen (exactly_advances hs least) fun _ => lazily_advances hs _ _
  | possessive =>
    have honce := once_advances hs
    exact once_advances (hthen (exactly_advances honce least) fun _ => greedily_advances honce _ _)

end Repetition

theorem run_advances (node : Node) (mode : Mode) : Advances (node.run mode) := by
  induction node generalizing mode with
  | empty => exact fun place rest last h => ⟨place, place.leadsTo_self _, h⟩
  | one code => exact take_advances (mode.same code)
  | notOne code => exact take_advances fun c => !mode.same code c
  | any => exact take_advances fun c => mode.dotAll || c != '\n'
  | set negated members => exact take_advances (mode.inSet negated members)
  | anchor a =>
    intro place rest last h
    obtain ⟨-, h⟩ := Option.ite_none_right_eq_some.mp h
    exact ⟨place, place.leadsTo_self _, h⟩
  | again index =>
    intro place rest last h
    obtain ⟨text, -, h⟩ := Option.bind_eq_some_iff.mp h
    obtain ⟨next, hnext, h⟩ := Option.bind_eq_some_iff.mp h
    exact ⟨next, takeText_leadsTo hnext, h⟩
  | seq first second ihfirst ihsecond =>
    intro place rest last h
    obtain ⟨middle, hmiddle, h⟩ := ihfirst mode place _ last h
    obtain ⟨next, hnext, h⟩ := ihsecond mode middle rest last h
    exact ⟨next, hmiddle.trans hnext, h⟩
  | either first second ihfirst ihsecond =>
    intro place rest last h
    obtain h | h := eq_some_of_orElse h
    · exact ihfirst mode place rest last h
    · exact ihsecond mode place rest last h
  | group index change body ih =>
    intro place rest last h
    cases index with
    | none => exact ih _ place rest last h
    | some index =>
      obtain ⟨next, hnext, h⟩ := ih _ place _ last h
      exact ⟨_, hnext.trans (next.leadsTo_self _), h⟩
  | atomic body ih => exact once_advances (ih mode)
  | repeated greed least most body ih => exact repetition_advances (ih mode) greed least most
  | lookAhead wanted body ih =>
    intro place rest last h
    unfold Node.run at h
    split at h
    · exact ⟨_, place.leadsTo_self _, h⟩
    · exact ⟨place, place.leadsTo_self _, h⟩
    · cases h
  | lookBehind wanted width body ih =>
    intro place rest last h
    unfold Node.run at h
    split at h
    · exact ⟨_, place.leadsTo_self _, h⟩
    · exact ⟨place, place.leadsTo_self _, h⟩
    · cases h
  | ifGroup index present absent ihpresent ihabsent =>
    intro place rest last h
    unfold Node.run at h
    split_ifs at h
    · exact ihpresent mode place rest last h
    · exact ihabsent mode place rest last h

theorem attempt_divides {node : Node} {mode : Mode} {before after : Text} {found : Found}
    (h : Node.search.attempt node mode before after = some found) :
    before.reverse ++ after = found.before ++ found.matched ++ found.after := by
  obtain ⟨last, hlast, rfl⟩ := Option.map_eq_some_iff.mp h
  obtain ⟨next, ⟨taken, hafter, hbefore⟩, hsame⟩ := run_advances node mode _ some last hlast
  obtain rfl : next = last := Option.some.inj hsame
  have hmatched : Place.upTo ⟨before, after, []⟩ next = taken := by
    simp [Place.upTo, hbefore]
  rw [hmatched, List.append_assoc]
  exact congrArg _ hafter

theorem search_divides {node : Node} {mode : Mode} {before text : Text} {found : Found}
    (h : node.search mode before text = some found) :
    before.reverse ++ text = found.before ++ found.matched ++ found.after := by
  induction text generalizing before with
  | nil => exact attempt_divides h
  | cons c rest ih =>
    obtain h | h := eq_some_of_orElse h
    · exact attempt_divides h
    · rw [← ih h, List.reverse_cons, List.append_assoc, List.singleton_append]

/-- The match of an operand and what is before and after it make up the text. -/
theorem find?_divides {side : Side} {operand text : Text} {found : Found}
    (h : find? side operand text = .ok (some found)) :
    text = found.before ++ found.matched ++ found.after := by
  unfold find? at h
  cases hnode : Node.read (anchored side operand) with
  | error fault => simp [hnode, bind, Except.bind] at h
  | ok node =>
    rw [hnode] at h
    exact search_divides (Except.ok.inj h)

end Morphotactics.Pattern
