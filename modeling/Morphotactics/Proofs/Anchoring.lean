import Mathlib
import Morphotactics.Formation
import Morphotactics.Proofs.Condition
import Morphotactics.Proofs.Grammar.Printing
import Morphotactics.Proofs.Pattern.Choosing
import Morphotactics.Proofs.Pattern.Grouping
import Morphotactics.Proofs.Pattern.Leftmost

/-! Where the matches of conditions stand. A match is tied to its side of the stem, unless the
operand closes the group that is put around it and goes on with alternatives of its own. -/
namespace Morphotactics

namespace Pattern

/-- The match begins where the text begins, or it ends where the text does, a line break at the end of
the text left aside. -/
def Found.Tied (found : Found) : Side → Prop
  | .opening => found.before = []
  | .closing => found.after = [] ∨ found.after = ['\n']

/-- What has been found is what the items match at its place. -/
def Found.IsMatch (found : Found) (items : List Node) : Prop :=
  ((Node.ofItems items).matchAt startMode found.before (found.matched ++ found.after)).map
    (·.after) = some found.after

variable {side : Side} {operand text : Text} {found : Found}

theorem leftmost_of_find? (h : find? side operand text = .ok (some found)) :
    ∃ node, Node.read (anchored side operand) = .ok node ∧ node.Leftmost startMode text found := by
  unfold find? at h
  obtain ⟨node, hread, h⟩ := bind_eq_ok_iff.mp h
  exact ⟨node, hread, leftmost_of_search (pure_eq_ok_iff.mp h)⟩

/-- The operand is no pattern by itself, and what has been found is a match of an alternative that has
come out of the group around it. -/
def Found.Strays (found : Found) (side : Side) (operand : Text) : Prop :=
  (∀ node, Node.read operand ≠ .ok node) ∧ ∃ items ∈ strays side operand, found.IsMatch items

/-- A match is tied to its side, unless the operand lets it stray. -/
theorem tied_or_strays_of_find? (h : find? side operand text = .ok (some found)) :
    found.Tied side ∨ found.Strays side operand := by
  obtain ⟨node, hread, hleftmost⟩ := leftmost_of_find? h
  obtain ⟨items, rfl⟩ := exists_tied_alternative hread
  obtain ⟨last, hlast, hafter⟩ := Option.map_eq_some_iff.mp hleftmost.ends
  have hstray : (∃ items ∈ strays side operand, (Node.ofItems items).run startMode
        ⟨found.before.reverse, found.matched ++ found.after, []⟩ some = some last) →
      found.Strays side operand := by
    rintro ⟨items, hmem, hrun⟩
    have hmatch : found.IsMatch items := Option.map_eq_some_iff.mpr ⟨last, hrun, hafter⟩
    refine ⟨fun own hown => ?_, items, hmem, hmatch⟩
    rw [strays_eq_nil hread hown] at hmem
    cases hmem
  cases side with
  | opening => exact (run_choice_opening hlast).imp List.reverse_eq_nil_iff.mp hstray
  | closing =>
    rw [Found.Tied, ← hafter]
    exact (run_choice_closing hlast).imp_right hstray

end Pattern

namespace Condition

variable {c : Condition} {stem : Text}

theorem find?_eq_some_iff {found : Pattern.Found} :
    c.find? stem = .ok (some found) ↔ Pattern.find? c.side c.pattern stem = .ok (some found) := by
  unfold find?
  cases Pattern.find? c.side c.pattern stem <;> simp

/-- A condition with a pattern holds of the stems in which the pattern finds something. -/
theorem holds_iff_exists_found (hkind : c.kind = .endsWith ∨ c.kind = .startsWith)
    (hp : c.usesPattern) :
    c.holds stem = .ok true ↔ stem ≠ [] ∧ ∃ found, c.find? stem = .ok (some found) := by
  by_cases hstem : stem = []
  · subst hstem
    have hfalse : c.holds [] = .ok false := by
      unfold holds
      obtain hkind | hkind := hkind <;> rw [hkind] <;> rfl
    simp [hfalse]
  · rw [holds_of_pattern hkind hp hstem]
    cases c.find? stem with
    | error invalid => simp [Except.map]
    | ok found? => simp [Except.map, hstem, Option.isSome_iff_exists]

/-- A condition with a pattern holds of a stem if the pattern finds something in it. What it finds is
tied to its side of the stem, unless the pattern closes the group that is put around it and lets the
match stray. -/
theorem holds_iff_tied_or_strays (hkind : c.kind = .endsWith ∨ c.kind = .startsWith)
    (hp : c.usesPattern) :
    c.holds stem = .ok true ↔ stem ≠ [] ∧ ∃ found, c.find? stem = .ok (some found) ∧
      (found.Tied c.side ∨ found.Strays c.side c.pattern) := by
  have hends : ∀ found, c.find? stem = .ok (some found) →
      found.Tied c.side ∨ found.Strays c.side c.pattern := fun found hfound =>
    Pattern.tied_or_strays_of_find? (find?_eq_some_iff.mp hfound)
  rw [holds_iff_exists_found hkind hp]
  refine and_congr_right fun _ => exists_congr fun found => ?_
  exact (and_iff_left_of_imp (hends found)).symm

/-- A condition that asks for one of two letters at the end of a stem. -/
def eitherLetter : Condition where
  kind := .endsWith
  pattern := "a|b".toList

/-- An alternation is tied as a whole: not the first letter of the stem is found but the last. -/
theorem eitherLetter_tied :
    eitherLetter.holds "axa".toList = .ok true ∧
      ∃ found, eitherLetter.find? "axa".toList = .ok (some found) ∧ found.Tied .closing := by
  have hholds : eitherLetter.holds "axa".toList = .ok true := by cbv
  obtain ⟨node, hread⟩ : ∃ node, Pattern.Node.read eitherLetter.pattern = .ok node :=
    ⟨_, by cbv⟩
  obtain ⟨-, found, hfound, hend⟩ := (holds_iff_tied_or_strays (.inl rfl) rfl).mp hholds
  refine ⟨hholds, found, hfound, hend.resolve_right ?_⟩
  rintro ⟨hunread, -⟩
  exact hunread node hread

namespace Escaping

/-- A pattern that closes the group it is put into and opens another. -/
def text : Text :=
  "SUFFIX s \x7b lar: \"x\" WHEN ENDSWITH /a)|(b/ \x7d RULE r \x7b @s \x7d".toList

def condition : Condition where
  kind := .endsWith
  pattern := "a)|(b".toList

def declarations : List Declaration :=
  [.set ['s'] [] [⟨"lar".toList, ['x'], condition⟩], .rule ['r'] [] [[.setRef ['s']]]]

theorem text_loaded : (Loading.ofText 1 text).outcome = .ok (.ofDeclarations 1 declarations) := by
  have hread : declarationsOf? 2 text = some declarations := by cbv
  exact ofText_of_declarationsOf? hread 1

end Escaping

/-- The first letter of the stem is found, although the pattern is to be found at the end. -/
theorem escaping_untied :
    (Loading.ofText 1 Escaping.text).outcome = .ok (.ofDeclarations 1 Escaping.declarations) ∧
      Escaping.condition.holds "axx".toList = .ok true ∧
        Escaping.condition.find? "axx".toList = .ok (some ⟨[], ['a'], ['x', 'x']⟩) ∧
          ¬ (⟨[], ['a'], ['x', 'x']⟩ : Pattern.Found).Tied .closing ∧
            (Grammar.ofDeclarations 1 Escaping.declarations).forms ['r'] "axx".toList =
              .ok ["axxlar".toList] := by
  refine ⟨Escaping.text_loaded, by cbv, by cbv, ?_, by cbv⟩
  unfold Pattern.Found.Tied
  decide

end Condition

end Morphotactics
