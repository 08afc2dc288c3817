import Mathlib.Computability.Language
import Morphotactics.Proofs.Grammar.Declaration

/-! Readers that look one token ahead. Such a reader goes on as long as what it has read can still
be continued to a part of its language, and the token at which it stops rules out every
continuation. Readers are put together as their languages are. -/
namespace Morphotactics

variable {α β : Type}

abbrev Reader (α : Type) := Tokens → Except ParseError (Parsed α)

/-- The lists of tokens that spell something. -/
def Spelled (spells : Tokens → α → Prop) : Language Token :=
  {ts | ∃ a, spells ts a}

/-- The single tokens of a kind. -/
def ofKind (kind : TokenKind) : Language Token :=
  {ts | ∃ t : Token, t.kind = kind ∧ ts = [t]}

/-- A reader of a language looks no further than to the kind of the next token. It is not asked here
where a number is that cannot be read. -/
structure Predicts (L : Language Token) (read : Reader α) (ts : Tokens) : Prop where
  /-- What is read belongs to the language, and is read also where other tokens of the same kind
  are left. -/
  accepts : ∀ a left, read ts = .ok (a, left) → ∃ taken ∈ L, ts = taken ++ left ∧
    ∀ other : Tokens, other.current.kind = left.current.kind →
      read (taken ++ other) = .ok (a, other)
  /-- What stands before the place of an error can be continued, but not by a token of the kind that
  is found there. -/
  stops : ∀ expected found position, read ts = .error (.unexpected expected found position) →
    ∃ before left, ts = before ++ left ∧ left.current.kind = found ∧
      left.current.position = position ∧ (∃ rest, before ++ rest ∈ L) ∧
        ∀ other : Tokens, other.current.kind = found → ∃ e, read (before ++ other) = .error e

section Languages

variable {L M : Language Token} {kind : TokenKind}

theorem mem_ofKind {t : Token} (h : t.kind = kind) : [t] ∈ ofKind kind :=
  ⟨t, h, rfl⟩

theorem ofKind_nonempty (kind : TokenKind) : ∃ t, t ∈ ofKind kind :=
  ⟨[⟨kind, [], .start⟩], mem_ofKind rfl⟩

theorem mul_nonempty (hL : ∃ t, t ∈ L) (hM : ∃ t, t ∈ M) : ∃ t, t ∈ L * M := by
  obtain ⟨t, ht⟩ := hL
  obtain ⟨u, hu⟩ := hM
  exact ⟨t ++ u, Language.mem_mul.mpr ⟨t, ht, u, hu, rfl⟩⟩

theorem nil_mem_one : [] ∈ (1 : Language Token) :=
  rfl

/-- What may stand behind a part of a list with commas: another part and so on, or nothing. -/
def moreOf (L : Language Token) : Language Token :=
  ofKind .comma * L + 1

theorem nil_mem_moreOf (L : Language Token) : [] ∈ moreOf L :=
  .inr rfl

/-- A list is a part alone, or a part with a comma and a list. -/
theorem forall_mem_mul_moreOf {N : Language Token} (hsingle : ∀ t ∈ L, t ∈ N)
    (hcons : ∀ t ∈ L, ∀ comma : Token, comma.kind = .comma → ∀ more ∈ M, t ++ comma :: more ∈ N) :
    ∀ t ∈ L * moreOf M, t ∈ N := by
  rintro _ ⟨t, ht, _, ⟨_, ⟨comma, comma_kind, rfl⟩, more, hmore, rfl⟩ | rfl, rfl⟩
  · exact hcons t ht comma comma_kind more hmore
  · have hmem := hsingle t ht
    rw [← List.append_nil t] at hmem
    exact hmem

end Languages

theorem Tokens.current_append {ts left other : Tokens}
    (h : other.current.kind = left.current.kind) :
    (ts ++ other).current.kind = (ts ++ left).current.kind := by
  cases ts with
  | nil => exact h
  | cons t ts => rfl

theorem expect_of_not_at? {kind : TokenKind} {ts : Tokens} (h : ¬ ts.at? kind) :
    expect kind ts = refuse (.kind kind) ts := by
  cases ts with
  | nil => rfl
  | cons t rest => exact if_neg fun hkind => h (Tokens.at?_of_kind hkind)

namespace Predicts

variable {L M : Language Token} {read other : Reader α} {ts : Tokens} {kind : TokenKind}

theorem mono (h : Predicts L read ts) (hsub : ∀ t ∈ L, t ∈ M) : Predicts M read ts := by
  refine ⟨fun a left hok => ?_, fun expected found position herror => ?_⟩
  · obtain ⟨taken, htaken, hrest⟩ := h.accepts a left hok
    exact ⟨taken, hsub taken htaken, hrest⟩
  · obtain ⟨before, left, hts, hkind, hposition, ⟨rest, hbefore⟩, hothers⟩ :=
      h.stops expected found position herror
    exact ⟨before, left, hts, hkind, hposition, ⟨rest, hsub _ hbefore⟩, hothers⟩

/-- A reader does what another one does wherever the next token has the same kind as here. -/
theorem of_current (h : Predicts L read ts)
    (hsame : ∀ us : Tokens, us.current.kind = ts.current.kind → other us = read us) :
    Predicts L other ts := by
  refine ⟨fun a left hok => ?_, fun expected found position herror => ?_⟩
  · rw [hsame ts rfl] at hok
    obtain ⟨taken, htaken, hts, hothers⟩ := h.accepts a left hok
    refine ⟨taken, htaken, hts, fun us hus => ?_⟩
    rw [hsame _ (by rw [hts, Tokens.current_append hus])]
    exact hothers us hus
  · rw [hsame ts rfl] at herror
    obtain ⟨before, left, hts, hkind, hposition, hbefore, hothers⟩ :=
      h.stops expected found position herror
    refine ⟨before, left, hts, hkind, hposition, hbefore, fun us hus => ?_⟩
    rw [hsame _ (by rw [hts, Tokens.current_append (hus.trans hkind.symm)])]
    exact hothers us hus

theorem of_eq (h : Predicts L read ts) (hread : ∀ us, other us = read us) : Predicts L other ts :=
  h.of_current fun us _ => hread us

/-- Nothing is read, if this belongs to the language. -/
theorem pure (hL : [] ∈ L) (a : α) (ts : Tokens) : Predicts L (fun ts => .ok (a, ts)) ts := by
  refine ⟨fun b left hok => ?_, nofun⟩
  obtain ⟨rfl, rfl⟩ := Prod.mk.inj (Except.ok.inj hok)
  exact ⟨[], hL, rfl, fun _ _ => rfl⟩

theorem refuse (hL : ∃ t, t ∈ L) (expected : Expected) (ts : Tokens) :
    Predicts L (Morphotactics.refuse (α := Parsed α) expected) ts := by
  refine ⟨nofun, fun _ found position herror => ?_⟩
  obtain ⟨-, rfl, rfl⟩ := ParseError.unexpected.inj (Except.error.inj herror)
  exact ⟨[], ts, rfl, rfl, rfl, hL, fun us _ => ⟨_, rfl⟩⟩

/-- A token that has been looked at is taken. -/
theorem token (hkind : ts.at? kind) (hne : kind ≠ .eof) (h : Predicts L read ts.tail) :
    Predicts (ofKind kind * L) (fun ts => read ts.tail) ts := by
  obtain ⟨t, ht, hts⟩ := Tokens.exists_cons_of_at? hkind hne
  refine ⟨fun a left hok => ?_, fun expected found position herror => ?_⟩
  · obtain ⟨taken, htaken, htail, hothers⟩ := h.accepts a left hok
    refine ⟨t :: taken, Language.mem_mul.mpr ⟨[t], mem_ofKind ht, taken, htaken, rfl⟩, ?_, hothers⟩
    rw [hts, htail, List.cons_append]
  · obtain ⟨before, left, htail, hfound, hposition, ⟨rest, hrest⟩, hothers⟩ :=
      h.stops expected found position herror
    refine ⟨t :: before, left, ?_, hfound, hposition, ⟨rest, ?_⟩, hothers⟩
    · rw [hts, htail, List.cons_append]
    · exact Language.mem_mul.mpr ⟨[t], mem_ofKind ht, _, hrest, rfl⟩

theorem ite (kind : TokenKind) (hthen : ts.at? kind → Predicts L read ts)
    (helse : ¬ ts.at? kind → Predicts L other ts) :
    Predicts L (fun ts => if ts.at? kind then read ts else other ts) ts := by
  by_cases hkind : ts.at? kind
  · refine (hthen hkind).of_current fun us hus => if_pos ?_
    rwa [Tokens.at?, hus]
  · refine (helse hkind).of_current fun us hus => if_neg ?_
    rwa [Tokens.at?, hus]

theorem expect (kind : TokenKind) (hne : kind ≠ .eof) (ts : Tokens) :
    Predicts (ofKind kind) (Morphotactics.expect kind) ts := by
  by_cases hkind : ts.at? kind
  · obtain ⟨t, ht, hts⟩ := Tokens.exists_cons_of_at? hkind hne
    have hread : Morphotactics.expect kind ts = .ok (t.text, ts.tail) := by
      rw [hts]
      exact expect_cons ht
    refine ⟨fun text left hok => ?_, fun _ _ _ herror => by cases hread.symm.trans herror⟩
    obtain ⟨rfl, rfl⟩ := Prod.mk.inj (Except.ok.inj (hread.symm.trans hok))
    exact ⟨[t], mem_ofKind ht, hts, fun us _ => expect_cons ht⟩
  · refine (refuse (ofKind_nonempty kind) (.kind kind) ts).of_current fun us hus => ?_
    exact expect_of_not_at? (by rwa [Tokens.at?, hus])

/-- Two readers, one after the other. -/
theorem bind {first : Reader α} {second : α → Reader β} (h : Predicts L first ts)
    (hM : ∃ t, t ∈ M)
    (hsecond : ∀ a left, first ts = .ok (a, left) → Predicts M (second a) left) :
    Predicts (L * M) (fun ts => first ts >>= fun r => second r.1 r.2) ts := by
  refine ⟨fun b left hok => ?_, fun expected found position herror => ?_⟩
  · obtain ⟨⟨a, middle⟩, hfirst, hnext⟩ := bind_eq_ok_iff.mp hok
    obtain ⟨taken, htaken, hts, hothers⟩ := h.accepts a middle hfirst
    obtain ⟨more, hmore, rfl, hmores⟩ := (hsecond a middle hfirst).accepts b left hnext
    refine ⟨taken ++ more, Language.mem_mul.mpr ⟨taken, htaken, more, hmore, rfl⟩, ?_,
      fun us hus => ?_⟩
    · rw [hts, List.append_assoc]
    · rw [List.append_assoc, hothers _ (Tokens.current_append hus)]
      exact hmores us hus
  -- A continuation of the first part is continued by any second part; where the second one stops,
  -- the first is read again because what follows it begins with the same kind of token.
  · obtain hfirst | ⟨⟨a, middle⟩, hfirst, hnext⟩ := bind_eq_error_iff.mp herror
    · obtain ⟨before, left, hts, hkind, hposition, ⟨rest, hrest⟩, hothers⟩ :=
        h.stops expected found position hfirst
      obtain ⟨more, hmore⟩ := hM
      refine ⟨before, left, hts, hkind, hposition, ⟨rest ++ more, ?_⟩, fun us hus => ?_⟩
      · rw [← List.append_assoc]
        exact Language.mem_mul.mpr ⟨_, hrest, more, hmore, rfl⟩
      · obtain ⟨e, he⟩ := hothers us hus
        exact ⟨e, bind_eq_error_iff.mpr (.inl he)⟩
    · obtain ⟨taken, htaken, hts, hothers⟩ := h.accepts a middle hfirst
      obtain ⟨before, left, rfl, hkind, hposition, ⟨rest, hrest⟩, hlast⟩ :=
        (hsecond a middle hfirst).stops expected found position hnext
      refine ⟨taken ++ before, left, ?_, hkind, hposition, ⟨rest, ?_⟩, fun us hus => ?_⟩
      · rw [hts, List.append_assoc]
      · rw [List.append_assoc]
        exact Language.mem_mul.mpr ⟨taken, htaken, _, hrest, rfl⟩
      · obtain ⟨e, he⟩ := hlast us hus
        refine ⟨e, bind_eq_error_iff.mpr (.inr ⟨(a, before ++ us), ?_, he⟩)⟩
        rw [List.append_assoc]
        exact hothers _ (Tokens.current_append (hus.trans hkind.symm))

/-- What is read is put into another form. -/
theorem map {first : Reader α} (h : Predicts L first ts) (f : α → β) :
    Predicts L (fun ts => first ts >>= fun r => .ok (f r.1, r.2)) ts := by
  have hbind := h.bind ⟨[], nil_mem_one⟩ fun a left _ => pure nil_mem_one (f a) left
  rwa [mul_one] at hbind

/-- A comma is taken, and the next part of a list is read. -/
theorem comma (hcomma : ts.at? .comma) (h : Predicts L read ts.tail) :
    Predicts (moreOf L) (fun ts => read ts.tail) ts :=
  (token hcomma (by decide) h).mono fun _ => .inl

end Predicts
end Morphotactics
