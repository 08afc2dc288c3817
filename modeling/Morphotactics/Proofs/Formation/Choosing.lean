import Morphotactics.Formation
import Morphotactics.Proofs.Enumerating
import Morphotactics.Proofs.Stepwise

/-! Forms by choices. What an element makes of a word is what a choice at it leads to, in the order
of the choices, and an alternative makes of a root what choices at its elements lead to. -/
namespace Morphotactics

/-- What is chosen at an element. -/
inductive Choice where
  /-- One of the options of a literal. -/
  | option (index : Nat)
  | skip
  /-- An optional element is not skipped, and a choice is made at its child. -/
  | take (child : Choice)
  /-- One of the suffixes of a set. -/
  | suffix (index : Nat)
  | pass

/-- Options and suffixes are in their order, and an optional element is skipped before it is
taken. -/
inductive Choice.Before : Choice → Choice → Prop
  | option {i j : Nat} (h : i < j) : Before (.option i) (.option j)
  | skip {child : Choice} : Before .skip (.take child)
  | take {child other : Choice} (h : Before child other) : Before (.take child) (.take other)
  | suffix {i j : Nat} (h : i < j) : Before (.suffix i) (.suffix j)

theorem Choice.Before.asymm {c d : Choice} (h : c.Before d) : ¬ d.Before c := by
  induction h with
  | option h => exact fun | .option h' => Nat.lt_asymm h h'
  | skip => exact nofun
  | take _ ih => exact fun | .take h' => ih h'
  | suffix h => exact fun | .suffix h' => Nat.lt_asymm h h'

instance : Std.Asymm Choice.Before where
  asymm _ _ := Choice.Before.asymm

/-- The condition of the suffix holds of the word, and the form is the changed word with the
suffix. -/
def SuffixDefinition.Attaches (d : SuffixDefinition) (word form : Text) : Prop :=
  d.condition.holds word = .ok true ∧
    ∃ stem, d.condition.apply word = .ok stem ∧ stem ++ d.suffix = form

namespace Grammar

/-- A choice at an element makes a form of a word. -/
inductive Chooses (g : Grammar) : Element → Text → Choice → Text → Prop
  | option {text option word : Text} {i : Nat} (listed : (literalOptions text)[i]? = some option) :
      g.Chooses (.literal text) word (.option i) (word ++ option)
  | skip {child : Element} {word : Text} : g.Chooses (.optional child) word .skip word
  | take {child : Element} {word form : Text} {c : Choice} (made : g.Chooses child word c form) :
      g.Chooses (.optional child) word (.take c) form
  | suffix {name word stem : Text} {set : SuffixSet} {i : Nat} {d : SuffixDefinition}
      (declared : g.suffixSet name = .ok set) (listed : set.suffixes.values[i]? = some d)
      (holds : d.condition.holds word = .ok true) (applies : d.condition.apply word = .ok stem) :
      g.Chooses (.setRef name) word (.suffix i) (stem ++ d.suffix)
  | pass {glosses : Table Text} {word : Text} : g.Chooses (.glossed glosses) word .pass word

/-- Choices at the elements of an alternative make a form of a word, one after the other. -/
inductive ChoosesAll (g : Grammar) : Alternative → Text → List Choice → Text → Prop
  | nil {word : Text} : g.ChoosesAll [] word [] word
  | cons {e : Element} {alternative : Alternative} {word middle form : Text} {c : Choice}
      {cs : List Choice} (first : g.Chooses e word c middle)
      (rest : g.ChoosesAll alternative middle cs form) :
      g.ChoosesAll (e :: alternative) word (c :: cs) form

section Enumeration

variable {g : Grammar} {word root : Text} {forms : List Text}

/-- A definition gives one form or none, so there is nothing to tell its forms apart by. -/
theorem exists_parts_of_suffixForms {ds : List SuffixDefinition}
    (h : suffixForms word ds = .ok forms) :
    ∃ parts, List.Forall₂ (fun d part =>
      Enumerates (fun _ _ => False) (fun (_ : Unit) => d.Attaches word) part) ds parts ∧
        parts.flatten = forms := by
  induction ds generalizing forms with
  | nil => exact ⟨[], .nil, Except.ok.inj h⟩
  | cons d rest ih =>
    obtain ⟨holds, hholds, h⟩ := bind_eq_ok_iff.mp h
    cases holds with
    | false =>
      obtain ⟨parts, hparts, rfl⟩ := ih h
      refine ⟨[] :: parts, .cons (enumerates_nil.congr ?_) hparts, rfl⟩
      simp [SuffixDefinition.Attaches, hholds]
    | true =>
      obtain ⟨stem, hstem, h⟩ := bind_eq_ok_iff.mp h
      obtain ⟨more, hmore, h⟩ := bind_eq_ok_iff.mp h
      obtain rfl := pure_eq_ok_iff.mp h
      obtain ⟨parts, hparts, rfl⟩ := ih hmore
      refine ⟨[stem ++ d.suffix] :: parts, .cons ((enumerates_singleton () _).congr ?_) hparts, rfl⟩
      simp [SuffixDefinition.Attaches, hholds, hstem, eq_comm]

theorem suffixForms_enumerates {ds : List SuffixDefinition}
    (h : suffixForms word ds = .ok forms) :
    Enumerates (· < ·) (fun (i : Nat) form => ∃ d, ds[i]? = some d ∧ d.Attaches word form)
      forms := by
  obtain ⟨parts, hparts, rfl⟩ := exists_parts_of_suffixForms h
  refine ((enumerates_getElem? ds).flatten hparts).relabel (c := Prod.fst) ?_ (by simp)
  rintro _ _ (⟨_, _, hless⟩ | ⟨_, hnever⟩)
  · exact hless
  · exact hnever.elim

theorem elementForms_enumerates {e : Element} (h : g.elementForms word e = .ok forms) :
    Enumerates Choice.Before (g.Chooses e word) forms := by
  induction e generalizing forms with
  | literal text =>
    obtain rfl := Except.ok.inj h
    refine (enumerates_getElem? _).map _ (c := Choice.option) (fun _ _ => .option) fun c form => ?_
    constructor
    · rintro ⟨listed⟩
      exact ⟨_, _, listed, rfl, rfl⟩
    · rintro ⟨i, option, listed, rfl, rfl⟩
      exact .option listed
  | glossed glosses =>
    obtain rfl := Except.ok.inj h
    refine (enumerates_singleton Choice.pass word).congr fun c form => ?_
    constructor
    · rintro ⟨⟩
      exact ⟨rfl, rfl⟩
    · rintro ⟨rfl, rfl⟩
      exact .pass
  | optional child ih =>
    obtain ⟨made, hmade, h⟩ := bind_eq_ok_iff.mp h
    obtain rfl := pure_eq_ok_iff.mp h
    have htaken : Enumerates Choice.Before
        (fun c form => ∃ child', g.Chooses child word child' form ∧ .take child' = c) made :=
      (ih hmade).relabel (fun _ _ => .take) fun _ _ => Iff.rfl
    refine ((enumerates_singleton Choice.skip word).append htaken ?_).congr fun c form => ?_
    · rintro _ _ _ _ ⟨rfl, -⟩ ⟨_, -, rfl⟩
      exact .skip
    · constructor
      · intro hform
        cases hform with
        | skip => exact .inl ⟨rfl, rfl⟩
        | take made => exact .inr ⟨_, made, rfl⟩
      · rintro (⟨rfl, rfl⟩ | ⟨_, made, rfl⟩)
        · exact .skip
        · exact .take made
  | setRef name =>
    unfold elementForms at h
    split at h
    · cases h
    · rename_i set hset
      split at h
      · cases h
      · rename_i made hmade
        obtain rfl := Except.ok.inj h
        refine (suffixForms_enumerates hmade).relabel (fun _ _ => .suffix) fun c form => ?_
        constructor
        · intro hform
          cases hform with
          | suffix declared listed holds applies =>
            obtain rfl := Except.ok.inj (hset.symm.trans declared)
            exact ⟨_, ⟨_, listed, holds, _, applies, rfl⟩, rfl⟩
        · rintro ⟨i, ⟨d, listed, holds, stem, applies, rfl⟩, rfl⟩
          exact .suffix hset listed holds applies

/-- A run through a list that appends what its elements give has a part from each of them. -/
private theorem exists_parts {α β ε : Type} (give : α → Except ε (List β))
    (run : List α → Except ε (List β)) (hnil : run [] = .ok [])
    (hcons : ∀ x rest, run (x :: rest) = do return (← give x) ++ (← run rest)) {xs : List α}
    {all : List β} (h : run xs = .ok all) :
    ∃ parts, List.Forall₂ (fun x part => give x = .ok part) xs parts ∧ parts.flatten = all := by
  induction xs generalizing all with
  | nil => exact ⟨[], .nil, Except.ok.inj (hnil.symm.trans h)⟩
  | cons x rest ih =>
    rw [hcons] at h
    obtain ⟨part, hpart, h⟩ := bind_eq_ok_iff.mp h
    obtain ⟨more, hmore, h⟩ := bind_eq_ok_iff.mp h
    obtain rfl := pure_eq_ok_iff.mp h
    obtain ⟨parts, hparts, rfl⟩ := ih hmore
    exact ⟨part :: parts, .cons hpart hparts, rfl⟩

theorem elementFormsOfAll_enumerates {δ : Type} {R : δ → δ → Prop} {D : δ → Text → Prop}
    {e : Element} {words : List Text} (hwords : Enumerates R D words)
    (h : g.elementFormsOfAll e words = .ok forms) :
    Enumerates (Prod.Lex R Choice.Before)
      (fun d form => ∃ word, D d.1 word ∧ g.Chooses e word d.2 form) forms := by
  obtain ⟨parts, hparts, rfl⟩ :=
    exists_parts (g.elementForms · e) (g.elementFormsOfAll e) rfl (fun _ _ => rfl) h
  exact hwords.flatten (hparts.imp fun _ _ => elementForms_enumerates)

theorem alternativeForms_enumerates {δ : Type} {R : δ → δ → Prop} {D : δ → Text → Prop}
    {alternative : Alternative} {words : List Text} (hwords : Enumerates R D words)
    (h : g.alternativeForms alternative words = .ok forms) :
    Enumerates (Prod.Lex R (List.Lex Choice.Before))
      (fun d form => ∃ word, D d.1 word ∧ g.ChoosesAll alternative word d.2 form) forms := by
  -- What the first element makes is labelled with its choice too, so the labels are generalized.
  induction alternative generalizing δ words with
  | nil =>
    obtain rfl := Except.ok.inj h
    refine hwords.relabel (c := (·, [])) (fun _ _ => .left _ _) fun d form => ?_
    constructor
    · rintro ⟨word, hword, hform⟩
      obtain ⟨d, cs⟩ := d
      cases hform
      exact ⟨d, hword, rfl⟩
    · rintro ⟨d, hword, rfl⟩
      exact ⟨form, hword, .nil⟩
  | cons e rest ih =>
    obtain ⟨made, hmade, h⟩ := bind_eq_ok_iff.mp h
    refine (ih (elementFormsOfAll_enumerates hwords hmade) h).relabel
      (c := fun d => (d.1.1, d.1.2 :: d.2)) ?_ fun d form => ?_
    · rintro _ _ (⟨_, _, ⟨_, _, hless⟩ | ⟨_, hless⟩⟩ | ⟨_, hless⟩)
      · exact .left _ _ hless
      · exact .right _ (.rel hless)
      · exact .right _ (.cons hless)
    · constructor
      · rintro ⟨word, hword, hform⟩
        obtain ⟨d, cs⟩ := d
        cases hform with
        | cons first rest => exact ⟨((d, _), _), ⟨_, ⟨word, hword, first⟩, rest⟩, rfl⟩
      · rintro ⟨d, ⟨middle, ⟨word, hword, first⟩, rest⟩, rfl⟩
        exact ⟨word, hword, .cons first rest⟩

theorem alternativeForms_root_enumerates {alternative : Alternative}
    (h : g.alternativeForms alternative [root] = .ok forms) :
    Enumerates (List.Lex Choice.Before) (g.ChoosesAll alternative root) forms := by
  have hroot : Enumerates (fun _ _ => False) (fun d word => d = () ∧ word = root) [root] :=
    enumerates_singleton () root
  refine (alternativeForms_enumerates hroot h).relabel (c := Prod.snd) ?_ (by simp)
  rintro _ _ (⟨_, _, hnever⟩ | ⟨_, hless⟩)
  · exact hnever.elim
  · exact hless

theorem formsOfAll_enumerates {δ : Type} {R : δ → δ → Prop} {D : δ → Alternative → Prop}
    {alternatives : List Alternative} (halternatives : Enumerates R D alternatives)
    (h : g.formsOfAll root alternatives = .ok forms) :
    Enumerates (Prod.Lex R (List.Lex Choice.Before))
      (fun d form => ∃ alternative, D d.1 alternative ∧ g.ChoosesAll alternative root d.2 form)
      forms := by
  obtain ⟨parts, hparts, rfl⟩ :=
    exists_parts (g.alternativeForms · [root]) (g.formsOfAll root) rfl (fun _ _ => rfl) h
  exact halternatives.flatten (hparts.imp fun _ _ => alternativeForms_root_enumerates)

end Enumeration

end Grammar

end Morphotactics
