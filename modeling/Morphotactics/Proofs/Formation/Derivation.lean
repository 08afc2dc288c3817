import Mathlib
import Morphotactics.Proofs.Formation.Choosing

/-! Derivations of forms. What a rule makes of a root is everything that can be derived by choices
at its elements, in the order of these choices, and a form that has several derivations stands where
the first of them puts it. -/
namespace Morphotactics

/-- A block, one of its alternatives, and the choices at its elements from the first to the last. -/
structure Derivation where
  block : Nat
  alternative : Nat
  choices : List Choice

/-- By blocks, then by alternatives, then by the first elements at which the choices differ. -/
inductive Derivation.Before : Derivation → Derivation → Prop
  | block {b b' a a' : Nat} {cs cs' : List Choice} (h : b < b') : Before ⟨b, a, cs⟩ ⟨b', a', cs'⟩
  | alternative {b a a' : Nat} {cs cs' : List Choice} (h : a < a') : Before ⟨b, a, cs⟩ ⟨b, a', cs'⟩
  | choices {b a : Nat} {cs cs' : List Choice} (h : List.Lex Choice.Before cs cs') :
      Before ⟨b, a, cs⟩ ⟨b, a, cs'⟩

instance : Std.Asymm Derivation.Before where
  asymm _ _ h h' := by
    cases h with
    | block h => cases h' <;> omega
    | alternative h => cases h' <;> omega
    | choices h =>
      cases h' with
      | block h' | alternative h' => omega
      | choices h' => exact (List.Lex.asymm _).asymm _ _ h h'

namespace Grammar

/-- The derivation leads from the root to the form, in one of the blocks. -/
def Gives (g : Grammar) (rules : List Rule) (root : Text) (d : Derivation) (form : Text) : Prop :=
  ∃ rule alternative, rules[d.block]? = some rule ∧
    rule.alternatives[d.alternative]? = some alternative ∧
      g.ChoosesAll alternative root d.choices form

/-- The derivation leads to the form, and every other one that does comes later. -/
def GivesFirst (g : Grammar) (rules : List Rule) (root : Text) : Derivation → Text → Prop :=
  IsFirst Derivation.Before (g.Gives rules root)

theorem gives_enumerates {g : Grammar} {rules : List Rule} {root : Text} {forms : List Text}
    (h : g.formsOfAll root (rules.flatMap (·.alternatives)) = .ok forms) :
    Enumerates Derivation.Before (g.Gives rules root) forms := by
  have halternatives : Enumerates (Prod.Lex (· < ·) (· < ·)) (fun (p : Nat × Nat) alternative =>
      ∃ rule, rules[p.1]? = some rule ∧ rule.alternatives[p.2]? = some alternative)
      (rules.flatMap (·.alternatives)) :=
    (enumerates_getElem? rules).flatten (List.forall₂_map_right_iff.mpr
      (List.forall₂_same.mpr fun rule _ => enumerates_getElem? rule.alternatives))
  refine (formsOfAll_enumerates halternatives h).relabel (c := fun d => ⟨d.1.1, d.1.2, d.2⟩) ?_
    fun d form => ?_
  · rintro _ _ (⟨_, _, ⟨_, _, hless⟩ | ⟨_, hless⟩⟩ | ⟨_, hless⟩)
    · exact .block hless
    · exact .alternative hless
    · exact .choices hless
  · constructor
    · rintro ⟨rule, alternative, hrule, halternative, hform⟩
      exact ⟨((d.block, d.alternative), d.choices), ⟨alternative, ⟨rule, hrule, halternative⟩,
        hform⟩, rfl⟩
    · rintro ⟨d, ⟨alternative, ⟨rule, hrule, halternative⟩, hform⟩, rfl⟩
      exact ⟨rule, alternative, hrule, halternative, hform⟩

/-- If a rule has forms of a root, they are what derivations lead to, without duplicates, and one
comes before another if its first derivation does. -/
theorem forms_derivations {g : Grammar} {rule root : Text} {forms : List Text}
    (h : g.forms rule root = .ok forms) :
    ∃ rules, g.rulesNamed rule = .ok rules ∧ forms.Nodup ∧
      (∀ form, form ∈ forms ↔ ∃ d, g.Gives rules root d form) ∧
        (∀ form ∈ forms, ∃! d, g.GivesFirst rules root d form) ∧
          forms.Pairwise fun a b => ∀ d e, g.GivesFirst rules root d a →
            g.GivesFirst rules root e b → d.Before e := by
  unfold Grammar.forms at h
  split at h
  · cases h
  · rename_i rules hrules
    obtain ⟨made, hmade, h⟩ := bind_eq_ok_iff.mp h
    obtain rfl := pure_eq_ok_iff.mp h
    have henumerates := gives_enumerates hmade
    refine ⟨rules, hrules, Table.nodup_eraseDups made, fun form => ?_, henumerates.eraseDups⟩
    rw [List.mem_eraseDups, henumerates.mem_iff]

namespace Contracting

/-- A suffix that takes the place of the last letter of the stem, if that is its own first one. -/
def contracted : SuffixDefinition where
  suffix := ['k', 'a']
  description := ['x']
  condition := { kind := .endsWith, characters := ['k'], cut := 1 }

def plain : SuffixDefinition where
  suffix := ['a']
  description := ['y']

/-- Two blocks of a rule, the first one with two alternatives. -/
def blocks : List Rule :=
  [{ name := ['r'], description := [], serial := 1,
     alternatives := [[.setRef ['s'], .literal ['n']], [.optional (.setRef ['s'])]] },
   { name := ['r'], description := [], serial := 2, alternatives := [[.setRef ['s']], []] }]

def grammar : Grammar where
  sets := .ofList [(['s'], ⟨['s'], [], .ofList [(['k', 'a'], contracted), (['a'], plain)]⟩)]
  rules := .ofList [(['r'], blocks)]

theorem forms_eq : grammar.forms ['r'] "tok".toList =
    .ok ["tokan".toList, "tok".toList, "toka".toList] := by
  cbv

end Contracting

/-- The second alternative and the second block make one form with either suffix. It stands behind
the forms of the first alternative. -/
theorem contracting_forms_derivations :
    Contracting.grammar.forms ['r'] "tok".toList =
        .ok ["tokan".toList, "tok".toList, "toka".toList] ∧
      (∃! d, Contracting.grammar.GivesFirst Contracting.blocks "tok".toList d "toka".toList) ∧
        ∀ d e, Contracting.grammar.GivesFirst Contracting.blocks "tok".toList d "tokan".toList →
          Contracting.grammar.GivesFirst Contracting.blocks "tok".toList e "toka".toList →
            d.Before e := by
  obtain ⟨rules, hrules, -, -, hfirst, hordered⟩ := forms_derivations Contracting.forms_eq
  obtain rfl : Contracting.blocks = rules := Except.ok.inj hrules
  refine ⟨Contracting.forms_eq, hfirst _ (by decide), ?_⟩
  exact (List.pairwise_cons.mp hordered).1 _ (by decide)

end Grammar

end Morphotactics
