import Morphotactics.Proofs.Grammar.Acceptance
import Morphotactics.Proofs.Grammar.Predictive

/-! Where syntax errors are reported: at the first token with which the tokens before it cannot be
continued to a grammar. -/
namespace Morphotactics

/-- What stands before the place of a syntax error can be continued to declarations. With a token of
the kind that is found there, nothing that is read is complete. -/
theorem readDeclarations_stops {ts : Tokens} {expected : Expected} {found : TokenKind}
    {position : Position}
    (h : (readDeclarations ts).ending = .error (.unexpected expected found position)) :
    ∃ before left, ts = before ++ left ∧ left.current.kind = found ∧
      left.current.position = position ∧ (∃ rest ds, SpellsDeclarations (before ++ rest) ds) ∧
        ∀ other : Tokens, other.current.kind = found →
          (readDeclarations (before ++ other)).ending ≠ .ok () := by
  fun_induction readDeclarations ts with
  | case1 => cases h
  | case2 ts hend e hread =>
    obtain rfl := Except.error.inj h
    obtain ⟨before, left, rfl, hkind, hposition, ⟨rest, d, hspells⟩, hothers⟩ :=
      (readDeclaration_predicts ts).stops expected found position hread
    have hdeclarations := SpellsDeclarations.cons hspells .nil
    rw [List.append_nil] at hdeclarations
    refine ⟨before, left, rfl, hkind, hposition, ⟨rest, _, hdeclarations⟩, fun other hother => ?_⟩
    have hfirst : ¬ (before ++ other).at? .eof := by
      rwa [Tokens.at?, Tokens.current_append (hother.trans hkind.symm)]
    obtain ⟨e, he⟩ := hothers other hother
    rw [readDeclarations_eq, if_neg hfirst, he]
    rintro ⟨⟩
  | case3 ts _ d left hread more ih =>
    obtain ⟨taken, hspells, rfl⟩ := readDeclaration_sound hread
    obtain ⟨before, left, rfl, hkind, hposition, ⟨rest, ds, hothers⟩, hlast⟩ := ih h
    refine ⟨taken ++ before, left, (List.append_assoc _ _ _).symm, hkind, hposition,
      ⟨rest, d :: ds, ?_⟩, fun other hother => ?_⟩
    · rw [List.append_assoc]
      exact .cons hspells hothers
    · have hcons := SpellsDeclarations.cons hspells .nil
      rw [List.append_nil] at hcons
      rw [List.append_assoc, readDeclarations_append hcons]
      exact hlast other hother

section Loading

variable {ts : Tokens} {serial : Nat}

theorem Tokens.Endless.left_ne_nil {before left : Tokens} (h : before.Endless)
    (hend : (before ++ left).getLast?.map (·.kind) = some .eof) : left ≠ [] := by
  rintro rfl
  rw [List.append_nil] at hend
  obtain ⟨last, hlast, hkind⟩ := Option.map_eq_some_iff.mp hend
  exact h last (List.mem_of_getLast? hlast) hkind

theorem ending_of_outcome {g : Grammar} (h : (Loading.ofTokens serial ts).outcome = .ok g) :
    (readDeclarations ts).ending = .ok () := by
  unfold Loading.ofTokens at h
  split_ifs at h
  dsimp only at h
  split at h
  · assumption
  · cases h

theorem ending_of_parseError {e : ParseError} (hend : ts.getLast?.map (·.kind) = some .eof)
    (h : (Loading.ofTokens serial ts).outcome = .error (.parse e)) :
    (readDeclarations ts).ending = .error e := by
  rw [Loading.ofTokens, if_pos hend] at h
  dsimp only at h
  split at h
  · cases h
  · rename_i herror
    obtain rfl := LoadError.parse.inj (Except.error.inj h)
    exact herror

/-- Declarations that are closed by an end token are loaded. -/
theorem exists_loaded_of_spells {ds : List Declaration} (h : SpellsDeclarations ts ds)
    (serial : Nat) :
    ∃ g, (Loading.ofTokens serial (ts ++ [⟨.eof, [], .start⟩])).outcome = .ok g := by
  have hbefore : Tokens.beforeEnd (ts ++ [⟨.eof, [], .start⟩]) = ts :=
    Tokens.beforeEnd_append h.endless rfl
  have hread := readDeclarations_of_spells (hbefore.symm ▸ h)
  refine ⟨.ofDeclarations serial ds, ?_⟩
  rw [Loading.ofTokens, if_pos (by simp), hread]

/-- A syntax error has the kind and the place of one of the tokens. What stands before this one has
no end token in it and can be continued to a grammar, but not with this token. -/
theorem ofTokens_stops_earliest (hend : ts.getLast?.map (·.kind) = some .eof) {expected : Expected}
    {found : TokenKind} {position : Position}
    (h : (Loading.ofTokens serial ts).outcome =
      .error (.parse (.unexpected expected found position))) :
    ∃ k t, ts[k]? = some t ∧ t.kind = found ∧ t.position = position ∧
      Tokens.Endless (ts.take k) ∧
      (∃ more g, (ts.take k ++ more).getLast?.map (·.kind) = some .eof ∧
        (Loading.ofTokens serial (ts.take k ++ more)).outcome = .ok g) ∧
        ∀ more g, (Loading.ofTokens serial (ts.take (k + 1) ++ more)).outcome ≠ .ok g := by
  obtain ⟨before, left, rfl, hkind, hposition, ⟨rest, ds, hspells⟩, hothers⟩ :=
    readDeclarations_stops (ending_of_parseError hend h)
  have hbefore := (Tokens.endless_append.mp hspells.endless).1
  obtain ⟨t, left, rfl⟩ := List.exists_cons_of_ne_nil (hbefore.left_ne_nil hend)
  obtain ⟨g, hg⟩ := exists_loaded_of_spells hspells serial
  refine ⟨before.length, t, by simp, hkind, hposition, ?_, ?_, fun more other hother => ?_⟩
  · rwa [List.take_left]
  · refine ⟨rest ++ [⟨.eof, [], .start⟩], g, by simp, ?_⟩
    rwa [List.take_left, ← List.append_assoc]
  · have htaken : (before ++ t :: left).take (before.length + 1) ++ more = before ++ t :: more := by
      rw [List.take_length_add_append, List.append_assoc]
      rfl
    rw [htaken] at hother
    exact hothers (t :: more) hkind (ending_of_outcome hother)

namespace Uncoloned

/-- A suffix with no colon between its name and its description. -/
def tokens : Tokens :=
  [⟨.suffix, "SUFFIX".toList, ⟨1, 1⟩⟩, ⟨.identifier, ['s'], ⟨1, 8⟩⟩, ⟨.leftBrace, [], ⟨1, 10⟩⟩,
    ⟨.identifier, ['a'], ⟨2, 3⟩⟩, ⟨.string, ['x'], ⟨2, 5⟩⟩, ⟨.rightBrace, [], ⟨3, 1⟩⟩,
    ⟨.eof, [], ⟨3, 2⟩⟩]

theorem tokens_refused : (Loading.ofTokens 1 tokens).outcome =
    .error (.parse (.unexpected (.kind .colon) .string ⟨2, 5⟩)) := by
  have hsuffix : tokens.at? .suffix := rfl
  have hbody : readBody (tokens.drop 3) = .error (.unexpected (.kind .colon) .string ⟨2, 5⟩) := by
    rw [readBody_eq]
    rfl
  have hread : readDeclaration tokens = .error (.unexpected (.kind .colon) .string ⟨2, 5⟩) := by
    rw [readDeclaration_eq, if_pos hsuffix]
    exact bind_eq_error_iff.mpr (.inr ⟨((['s'], []), tokens.drop 3), rfl,
      bind_eq_error_iff.mpr (.inl hbody)⟩)
  have hend : tokens.getLast?.map (·.kind) = some .eof := rfl
  rw [Loading.ofTokens, if_pos hend, readDeclarations_eq,
    if_neg (Tokens.not_at?_of_at? hsuffix (by decide)), hread]

end Uncoloned

/-- The error is at the description, in front of which a colon could still follow. -/
theorem uncoloned_stops :
    Uncoloned.tokens.getLast?.map (·.kind) = some .eof ∧
      (Loading.ofTokens 1 Uncoloned.tokens).outcome =
        .error (.parse (.unexpected (.kind .colon) .string ⟨2, 5⟩)) ∧
      ∃ k t, Uncoloned.tokens[k]? = some t ∧ t.position = ⟨2, 5⟩ ∧
        (∃ more g, (Loading.ofTokens 1 (Uncoloned.tokens.take k ++ more)).outcome = .ok g) ∧
          ∀ more g,
            (Loading.ofTokens 1 (Uncoloned.tokens.take (k + 1) ++ more)).outcome ≠ .ok g := by
  have hend : Uncoloned.tokens.getLast?.map (·.kind) = some .eof := rfl
  obtain ⟨k, t, ht, -, hposition, -, ⟨more, g, -, hmore⟩, hothers⟩ :=
    ofTokens_stops_earliest hend Uncoloned.tokens_refused
  exact ⟨hend, Uncoloned.tokens_refused, k, t, ht, hposition, ⟨more, g, hmore⟩, hothers⟩

end Loading
end Morphotactics
