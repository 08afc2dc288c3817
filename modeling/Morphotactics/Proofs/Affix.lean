import Mathlib
import Morphotactics.Affix
import Morphotactics.Proofs.Formation
import Morphotactics.Proofs.Grammar.Evaluation

/-! Affix entries beside the forms that rules build: the two agree on a suffix unless it replaces
something else at the end of the stem than its last character. -/
namespace Morphotactics

/-- What an entry makes of a stem: characters are stripped from its end, and a text is appended. -/
def AffixEntry.attach (e : AffixEntry) (stem : Text) : Text :=
  stem.take (stem.length - e.strip) ++ e.append

namespace Condition

/-- A replacement takes the place of just the last character of a stem. A set of characters replaces
nothing, so that the character is put back; what follows a match must not change its place. -/
inductive SwapsLast (c : Condition) (stem : Text) : Prop
  | character {last : Char} (plain : c.usesPattern = false) (ends : stem.getLast? = some last)
      (same : c.replacement = [last])
  | found {found : Pattern.Found} (uses : c.usesPattern) (finds : c.find? stem = .ok (some found))
      (single : found.matched.length = 1)
      (keeps : c.replacement ++ found.after =
        (found.matched ++ found.after).dropLast ++ c.replacement)

variable {c : Condition} {stem : Text}

theorem exists_getLast?_of_holds (hkind : c.kind = .endsWith) (h : c.holds stem = .ok true) :
    ∃ last, stem.getLast? = some last := by
  cases hlast : stem.getLast? with
  | none =>
    unfold holds at h
    simp [hkind, hlast] at h
  | some last => exact ⟨last, rfl⟩

theorem exists_found_of_holds (hkind : c.kind = .endsWith) (hp : c.usesPattern)
    (h : c.holds stem = .ok true) : ∃ found, c.find? stem = .ok (some found) := by
  obtain ⟨last, hlast⟩ := exists_getLast?_of_holds hkind h
  unfold holds at h
  simp only [hkind, hlast, hp, if_true] at h
  obtain ⟨found?, hfind, h⟩ := bind_eq_ok_iff.mp h
  obtain ⟨found, rfl⟩ := Option.isSome_iff_exists.mp (pure_eq_ok_iff.mp h)
  exact ⟨found, hfind⟩

section Replacement

theorem apply_of_not_replaces (hr : c.replaces = false) (hcut : c.cut ≤ stem.length) :
    c.apply stem = .ok (stem.take (stem.length - c.cut.toNat)) := by
  unfold apply
  rw [hr, if_neg Bool.false_ne_true]
  split_ifs with hpositive
  · rfl
  · have hzero : c.cut.toNat = 0 := by omega
    rw [hzero, Nat.sub_zero, List.take_length]

/-- Without a match to put it in place of, a replacement has no effect. -/
theorem apply_of_replaces_nothing (hr : c.replaces)
    (h : (c.usesPattern && (c.kind = .endsWith || c.kind = .startsWith)) = false) :
    c.apply stem = .ok stem := by
  unfold apply
  rw [hr, if_pos rfl, h, if_neg Bool.false_ne_true]

/-- The replaced character goes back to its place exactly if it is the last one. -/
theorem dropLast_append_eq_iff {last : Char} (hlast : stem.getLast? = some last)
    (replacement : Text) : stem.dropLast ++ replacement = stem ↔ replacement = [last] := by
  have hstem : stem.dropLast ++ [last] = stem := List.dropLast_append_getLast? last hlast
  constructor
  · intro h
    exact List.append_cancel_left (h.trans hstem.symm)
  · rintro rfl
    exact hstem

theorem dropLast_append_eq_found_iff {found : Pattern.Found}
    (hstem : stem = found.before ++ found.matched ++ found.after) (hne : stem ≠ [])
    (replacement : Text) :
    stem.dropLast ++ replacement = found.before ++ replacement ++ found.after ↔
      found.matched.length = 1 ∧
        replacement ++ found.after = (found.matched ++ found.after).dropLast ++ replacement := by
  have hlength := congrArg List.length hstem
  have hpos := List.length_pos_iff.mpr hne
  simp only [List.length_append] at hlength
  have hsingle : stem.dropLast ++ replacement = found.before ++ replacement ++ found.after →
      found.matched.length = 1 := by
    intro h
    have hsame := congrArg List.length h
    simp only [List.length_append, List.length_dropLast] at hsame
    omega
  have hsplit : found.matched.length = 1 →
      stem.dropLast = found.before ++ (found.matched ++ found.after).dropLast := by
    intro hone
    have htail : found.matched ++ found.after ≠ [] := by
      intro hnil
      have hzero := congrArg List.length hnil
      simp only [List.length_append, List.length_nil] at hzero
      omega
    rw [hstem, List.append_assoc, List.dropLast_append_of_ne_nil htail]
  constructor
  · intro h
    have hone := hsingle h
    rw [hsplit hone, List.append_assoc, List.append_assoc] at h
    exact ⟨hone, (List.append_cancel_left h).symm⟩
  · rintro ⟨hone, hkeeps⟩
    rw [hsplit hone, List.append_assoc, List.append_assoc, hkeeps]

/-- A condition at the end of the stem replaces as an affix entry says exactly if it replaces the
last character. -/
theorem exists_apply_iff_swapsLast (hkind : c.kind = .endsWith) (hr : c.replaces)
    (h : c.holds stem = .ok true) :
    ∃ root, c.apply stem = .ok root ∧ (stem.dropLast ++ c.replacement = root ↔ c.SwapsLast stem) := by
  obtain ⟨last, hlast⟩ := exists_getLast?_of_holds hkind h
  cases hp : c.usesPattern with
  | false =>
    refine ⟨stem, apply_of_replaces_nothing hr (by rw [hp, Bool.false_and]), ?_⟩
    rw [dropLast_append_eq_iff hlast]
    constructor
    · intro hsame
      exact .character hp hlast hsame
    · intro hswaps
      cases hswaps with
      | character _ ends same => rwa [Option.some.inj (hlast.symm.trans ends)]
      | found uses => cases hp.symm.trans uses
  | true =>
    obtain ⟨found, hfound⟩ := exists_found_of_holds hkind hp h
    have hne : stem ≠ [] := by
      rintro rfl
      cases hlast
    refine ⟨_, apply_of_found hr hp (.inl hkind) hfound, ?_⟩
    rw [dropLast_append_eq_found_iff (find?_divides hfound) hne]
    constructor
    · rintro ⟨single, keeps⟩
      exact .found hp hfound single keeps
    · intro hswaps
      cases hswaps with
      | character plain => cases hp.symm.trans plain
      | found _ finds single keeps =>
        obtain rfl := Option.some.inj (Except.ok.inj (hfound.symm.trans finds))
        exact ⟨single, keeps⟩

end Replacement

end Condition

section Entry

variable {d : SuffixDefinition} {stem : Text} (setDescription : Text)

theorem attach_of_not_replaces (hr : d.condition.replaces = false) :
    (AffixEntry.ofDefinition d setDescription).attach stem =
      stem.take (stem.length - d.condition.cut.toNat) ++ d.suffix := by
  simp [AffixEntry.attach, AffixEntry.ofDefinition, hr]

theorem attach_of_replaces_elsewhere (hr : d.condition.replaces)
    (hkind : d.condition.kind ≠ .endsWith) :
    (AffixEntry.ofDefinition d setDescription).attach stem = stem ++ d.suffix := by
  simp [AffixEntry.attach, AffixEntry.ofDefinition, hr, hkind]

theorem attach_of_replaces_last (hr : d.condition.replaces) (hkind : d.condition.kind = .endsWith) :
    (AffixEntry.ofDefinition d setDescription).attach stem =
      stem.dropLast ++ d.condition.replacement ++ d.suffix := by
  simp [AffixEntry.attach, AffixEntry.ofDefinition, hr, hkind, List.dropLast_eq_take]

/-- An entry and the condition it comes from agree on a stem that the suffix may attach to, unless
something is replaced there that is not the last character. -/
theorem exists_apply_iff_attach (hkind : d.condition.kind ≠ .startsWith)
    (hcut : d.condition.cut ≤ stem.length) (h : d.condition.holds stem = .ok true) :
    ∃ root, d.condition.apply stem = .ok root ∧
      ((AffixEntry.ofDefinition d setDescription).attach stem = root ++ d.suffix ↔
        (d.condition.kind = .endsWith → d.condition.replaces → d.condition.SwapsLast stem)) := by
  cases hr : d.condition.replaces with
  | false =>
    refine ⟨_, Condition.apply_of_not_replaces hr hcut, ?_⟩
    rw [attach_of_not_replaces setDescription hr]
    simp
  | true =>
    by_cases hend : d.condition.kind = .endsWith
    · obtain ⟨root, hroot, hiff⟩ := Condition.exists_apply_iff_swapsLast hend hr h
      refine ⟨root, hroot, ?_⟩
      rw [attach_of_replaces_last setDescription hr hend, List.append_cancel_right_eq, hiff]
      simp [hend]
    · have hnothing : (d.condition.usesPattern && (d.condition.kind = .endsWith ||
          d.condition.kind = .startsWith)) = false := by
        simp [hend, hkind]
      refine ⟨stem, Condition.apply_of_replaces_nothing hr hnothing, ?_⟩
      rw [attach_of_replaces_elsewhere setDescription hr hend]
      simp [hend]

end Entry

/-- A suffix that may attach to a stem attaches there in the affix file as in the forms of a rule,
unless it replaces something at the end of the stem that is not the last character. -/
theorem attach_eq_form_iff {g : Grammar} (hg : g.Declared) {owned : Grammar.OwnedSuffix}
    (howned : owned ∈ g.suffixes) (hkind : owned.2.condition.kind ≠ .startsWith) {stem : Text}
    (hcut : owned.2.condition.cut ≤ stem.length)
    (hholds : owned.2.condition.holds stem = .ok true) (setDescription : Text) :
    ∃ root, owned.2.condition.apply stem = .ok root ∧
      g.Makes (.setRef owned.1.name) stem (root ++ owned.2.suffix) ∧
        ((AffixEntry.ofDefinition owned.2 setDescription).attach stem = root ++ owned.2.suffix ↔
          (owned.2.condition.kind = .endsWith → owned.2.condition.replaces →
            owned.2.condition.SwapsLast stem)) := by
  obtain ⟨hdeclared, hlisted⟩ := hg.wellKeyed.suffixSet_of_mem howned
  obtain ⟨root, hroot, hiff⟩ := exists_apply_iff_attach setDescription hkind hcut hholds
  exact ⟨root, hroot, .setRef hdeclared hlisted hholds hroot, hiff⟩

namespace Softening

/-- The character set has no match to replace. -/
def ofCharacter : SuffixDefinition where
  suffix := ['i']
  description := ['x']
  condition := { kind := .endsWith, characters := ['k', 'q'], replacement := ['g'] }

/-- The match has two characters. -/
def ofMatch : SuffixDefinition where
  suffix := ['u']
  description := ['y']
  condition := { kind := .endsWith, pattern := ['s', 'h'], replacement := ['z'] }

/-- The match has one character. -/
def ofLast : SuffixDefinition where
  suffix := ['a']
  description := ['z']
  condition := { kind := .endsWith, pattern := ['k'], replacement := ['g'] }

def sounds : SuffixSet where
  name := ['s']
  description := []
  suffixes := .ofList [(['i'], ofCharacter), (['u'], ofMatch), (['a'], ofLast)]

def grammar : Grammar :=
  .ofDeclarations 1 [.set ['s'] [] [ofCharacter, ofMatch, ofLast]]

theorem grammar_declared : grammar.Declared := by
  have hread : declarationsOf? 1
      ("SUFFIX s \x7b i: \"x\" WHEN ENDSWITH [kq] REPLACE \"g\", ".toList ++
        "u: \"y\" WHEN ENDSWITH /sh/ REPLACE \"z\", ".toList ++
          "a: \"z\" WHEN ENDSWITH /k/ REPLACE \"g\" \x7d".toList) =
        some [.set ['s'] [] [ofCharacter, ofMatch, ofLast]] := by
    cbv
  exact Grammar.declared_of_declarationsOf? hread

theorem grammar_suffixes :
    grammar.suffixes = [(sounds, ofCharacter), (sounds, ofMatch), (sounds, ofLast)] :=
  rfl

end Softening

/-- A match of one character at the end of the stem is replaced as the entry says. -/
theorem softening_attached :
    Softening.grammar.Declared ∧ (Softening.sounds, Softening.ofLast) ∈ Softening.grammar.suffixes ∧
      Softening.ofLast.condition.kind ≠ .startsWith ∧
        Softening.ofLast.condition.cut ≤ "ak".toList.length ∧
          Softening.ofLast.condition.holds "ak".toList = .ok true ∧
            (AffixEntry.ofDefinition Softening.ofLast []).attach "ak".toList = "aga".toList := by
  have howned : (Softening.sounds, Softening.ofLast) ∈ Softening.grammar.suffixes := by
    rw [Softening.grammar_suffixes]
    simp
  have hkind : Softening.ofLast.condition.kind ≠ .startsWith := by decide
  have hcut : Softening.ofLast.condition.cut ≤ "ak".toList.length := by decide
  have hholds : Softening.ofLast.condition.holds "ak".toList = .ok true := by cbv
  have hfound : Softening.ofLast.condition.find? "ak".toList = .ok (some ⟨['a'], ['k'], []⟩) := by
    cbv
  have hswaps : Softening.ofLast.condition.SwapsLast "ak".toList := .found rfl hfound rfl rfl
  obtain ⟨root, hroot, -, hattach⟩ :=
    attach_eq_form_iff Softening.grammar_declared howned hkind hcut hholds []
  have happly : Softening.ofLast.condition.apply "ak".toList = .ok "ag".toList := by cbv
  obtain rfl := Except.ok.inj (happly.symm.trans hroot)
  exact ⟨Softening.grammar_declared, howned, hkind, hcut, hholds, hattach.mpr fun _ _ => hswaps⟩

/-- The suffix may attach to the stem, but the entry makes another word of it than its form. -/
def SuffixDefinition.Misattaches (d : SuffixDefinition) (stem root : Text) : Prop :=
  d.condition.kind = .endsWith ∧ d.condition.cut ≤ stem.length ∧
    d.condition.holds stem = .ok true ∧ d.condition.apply stem = .ok root ∧
      (AffixEntry.ofDefinition d []).attach stem ≠ root ++ d.suffix

/-- The entries strip one character also where the stem keeps all of its characters, and where two
are replaced. -/
theorem softening_misattached :
    Softening.grammar.Declared ∧
      (Softening.sounds, Softening.ofCharacter) ∈ Softening.grammar.suffixes ∧
        Softening.ofCharacter.Misattaches "ak".toList "ak".toList ∧
          (Softening.sounds, Softening.ofMatch) ∈ Softening.grammar.suffixes ∧
            Softening.ofMatch.Misattaches "ash".toList "az".toList := by
  have hcharacter : (Softening.sounds, Softening.ofCharacter) ∈ Softening.grammar.suffixes := by
    rw [Softening.grammar_suffixes]
    simp
  have hmatch : (Softening.sounds, Softening.ofMatch) ∈ Softening.grammar.suffixes := by
    rw [Softening.grammar_suffixes]
    simp
  refine ⟨Softening.grammar_declared, hcharacter, ?_, hmatch, ?_⟩
  · exact ⟨rfl, by decide, by cbv, by cbv, by decide⟩
  · exact ⟨rfl, by decide, by cbv, by cbv, by decide⟩

end Morphotactics
