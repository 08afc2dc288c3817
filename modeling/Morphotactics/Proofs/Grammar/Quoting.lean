import Mathlib
import Morphotactics.Proofs.Grammar.Declared
import Morphotactics.Proofs.Grammar.Notation

/-! Glosses with quotes or backslashes in them: an alternative that is shown with one is not read
back. In a text a string costs the backslashes that stand in front of its quotes and backslashes, and
what is shown has fewer of them than its glosses cost. -/
namespace Morphotactics

/-- The backslashes that it takes to write the text between quotes, at least. -/
def slashCost (text : Text) : Nat :=
  text.count '"' + 2 * text.count '\\'

theorem Escapes.slashCost_le {inner value : Text} (h : Escapes inner value) :
    slashCost value ≤ inner.count '\\' := by
  unfold slashCost
  induction h with
  | nil => exact Nat.le_refl 0
  | @pair c rest value _ ih =>
    simp only [List.count_cons, beq_self_eq_true, if_true]
    split_ifs with hquote hslash
    · rw [beq_iff_eq] at hquote hslash
      cases hquote.symm.trans hslash
    all_goals omega
  | single not_close not_slash _ ih =>
    rw [List.count_cons_of_ne not_close, List.count_cons_of_ne not_slash,
      List.count_cons_of_ne not_slash]
    exact ih

section Tokens

def Token.slashes (t : Token) : Nat :=
  if t.kind = .string then slashCost t.text else 0

def Tokens.slashes (ts : Tokens) : Nat :=
  (ts.map Token.slashes).sum

@[simp] theorem Tokens.slashes_cons {t : Token} {ts : Tokens} :
    Tokens.slashes (t :: ts) = t.slashes + Tokens.slashes ts :=
  List.sum_cons

@[simp] theorem Tokens.slashes_append {ts more : Tokens} :
    Tokens.slashes (ts ++ more) = Tokens.slashes ts + Tokens.slashes more := by
  simp [Tokens.slashes]

theorem Tokens.slashes_le_of_sublist {ts more : Tokens} (h : List.Sublist ts more) :
    ts.slashes ≤ more.slashes :=
  (h.map Token.slashes).sum_le_sum fun _ _ => Nat.zero_le _

theorem Writes.slashes_le {kind : TokenKind} {source value : Text} (h : Writes kind source value)
    (position : Position) : Token.slashes ⟨kind, value, position⟩ ≤ source.count '\\' := by
  unfold Token.slashes
  split_ifs with hstring
  · obtain rfl : kind = .string := hstring
    cases h with
    | keyword _ is_keyword => exact absurd is_keyword (by decide)
    | mark is_mark => exact absurd rfl (TokenKind.of_ofChar? is_mark).2.2.1
    | string escapes => simpa using escapes.slashCost_le
  · exact Nat.zero_le _

/-- No more backslashes are spent on strings than there are. -/
theorem Tokenizes.slashes_le {previous : Option TokenKind} {position : Position} {text : Text}
    {ts : Tokens} (h : Tokenizes previous position text ts) : ts.slashes ≤ text.count '\\' := by
  induction h with
  | ended => simp [Tokens.slashes, Token.slashes]
  | @token _ position text gap rest source left _ _ _ space scans _ ih =>
    have htext : text = gap ++ (source ++ left) := by
      rw [← scans.text, ← (splitGap_text text).1, space]
    have hsource := (scans.writes gap).1.slashes_le (position.advance gap)
    rw [htext, Tokens.slashes_cons, List.count_append, List.count_append]
    omega

end Tokens

section Parts

/-- The backslashes that it takes to write the glosses. -/
def glossCost (glosses : List (Text × Text)) : Nat :=
  (glosses.map fun gloss => slashCost gloss.2).sum

@[simp] theorem glossCost_cons {gloss : Text × Text} {glosses : List (Text × Text)} :
    glossCost (gloss :: glosses) = slashCost gloss.2 + glossCost glosses :=
  List.sum_cons

@[simp] theorem glossCost_append {glosses more : List (Text × Text)} :
    glossCost (glosses ++ more) = glossCost glosses + glossCost more := by
  simp [glossCost]

/-- Collecting glosses makes no new ones. -/
theorem Table.Collects.glossCost_le {table : Table Text} {glosses : List (Text × Text)}
    (h : table.Collects glosses) : glossCost table.entries ≤ glossCost glosses := by
  have hsubperm : table.entries.Subperm glosses :=
    List.subperm_of_subset table.nodup.of_map fun _ he => h.mem he
  obtain ⟨some, hperm, hsublist⟩ := hsubperm
  calc glossCost table.entries = glossCost some := ((hperm.map _).sum_eq).symm
    _ ≤ glossCost glosses := (hsublist.map _).sum_le_sum fun _ _ => Nat.zero_le _

variable {ts : Tokens}

theorem Listed.glossCost_le {glosses : List (Text × Text)} (h : Listed SpellsGloss ts glosses) :
    glossCost glosses ≤ ts.slashes := by
  have hgloss : ∀ {ts gloss}, SpellsGloss ts gloss → slashCost gloss.2 ≤ Tokens.slashes ts := by
    rintro _ _ ⟨-, -, text_kind⟩
    simp [Token.slashes, text_kind]
    omega
  induction h with
  | single first => simpa [glossCost] using hgloss first
  | cons first _ _ ih =>
    have hfirst := hgloss first
    rw [glossCost_cons, Tokens.slashes_append, Tokens.slashes_cons]
    omega

theorem SpellsElement.glossCost_le {e : Element} (h : SpellsElement ts e) :
    glossCost e.glosses ≤ ts.slashes := by
  induction h with
  | literal | setRef => exact Nat.zero_le _
  | optional _ _ _ ih =>
    rw [List.cons_append, Tokens.slashes_cons, Tokens.slashes_append]
    exact Nat.le_trans ih (by omega)
  | glossed _ inner collects =>
    have hlisted := collects.glossCost_le.trans inner.glossCost_le
    rw [List.cons_append, Tokens.slashes_cons, Tokens.slashes_append]
    exact Nat.le_trans hlisted (by omega)

theorem SpellsAlternative.glossCost_le {a : Alternative} (h : SpellsAlternative ts a) :
    glossCost (Alternative.glosses a) ≤ ts.slashes := by
  induction h with
  | nil => exact Nat.zero_le _
  | @cons _ _ e rest first _ ih =>
    have hfirst := first.glossCost_le
    have hall : Alternative.glosses (e :: rest) = e.glosses ++ Alternative.glosses rest := rfl
    rw [hall, glossCost_append, Tokens.slashes_append]
    omega
  | @plus _ _ _ e rest first _ _ ih =>
    have hfirst := first.glossCost_le
    have hall : Alternative.glosses (e :: rest) = e.glosses ++ Alternative.glosses rest := rfl
    rw [hall, glossCost_append, Tokens.slashes_append, Tokens.slashes_cons]
    omega

end Parts

section Places

/-! Where a part of a grammar is spelled. -/

variable {ts : Tokens}

theorem Listed.exists_sublist {α : Type} {spells : Tokens → α → Prop} {all : List α}
    (h : Listed spells ts all) {a : α} (ha : a ∈ all) : ∃ sub, spells sub a ∧ sub.Sublist ts := by
  induction h with
  | single first =>
    obtain rfl := List.mem_singleton.mp ha
    exact ⟨_, first, List.Sublist.refl _⟩
  | @cons ts more comma _ _ first _ _ ih =>
    obtain rfl | hrest := List.mem_cons.mp ha
    · exact ⟨_, first, List.sublist_append_left _ _⟩
    · obtain ⟨sub, hsub, hsublist⟩ := ih hrest
      have hmore : more.Sublist (ts ++ comma :: more) :=
        (List.sublist_cons_self comma more).trans (List.sublist_append_right _ _)
      exact ⟨sub, hsub, hsublist.trans hmore⟩

theorem SpellsDeclarations.exists_sublist {ds : List Declaration} (h : SpellsDeclarations ts ds)
    {d : Declaration} (hd : d ∈ ds) : ∃ sub, SpellsDeclaration sub d ∧ sub.Sublist ts := by
  induction h with
  | nil => cases hd
  | cons first _ ih =>
    obtain rfl | hrest := List.mem_cons.mp hd
    · exact ⟨_, first, List.sublist_append_left _ _⟩
    · obtain ⟨sub, hsub, hsublist⟩ := ih hrest
      exact ⟨sub, hsub, hsublist.trans (List.sublist_append_right _ _)⟩

theorem SpellsDeclaration.exists_sublist {name description : Text} {alternatives : List Alternative}
    (h : SpellsDeclaration ts (.rule name description alternatives)) {a : Alternative}
    (ha : a ∈ alternatives) : ∃ sub, SpellsAlternative sub a ∧ sub.Sublist ts := by
  cases h with
  | @rule head body closing _ _ all _ listed =>
    obtain ⟨sub, hsub, hsublist⟩ := listed.exists_sublist (mem_of_mem_withoutEmptyLast ha)
    have hbody : body.Sublist (head ++ body ++ [closing]) :=
      (List.sublist_append_right head body).trans (List.sublist_append_left _ _)
    exact ⟨sub, hsub, hsublist.trans hbody⟩

end Places

section Counting

theorem count_intercalate {c : Char} {gap : Text} (hgap : c ∉ gap) (parts : List Text) :
    (List.intercalate gap parts).count c = (parts.map (List.count c)).sum := by
  induction parts with
  | nil => simp
  | cons part rest ih =>
    cases rest with
    | nil => simp
    | cons next rest =>
      rw [List.intercalate_cons_cons, List.count_append, List.count_append, ih,
        List.count_eq_zero_of_not_mem hgap, Nat.add_zero, List.map_cons (l := next :: rest),
        List.sum_cons]

/-- The backslashes in the glosses. -/
def glossSlashes (glosses : List (Text × Text)) : Nat :=
  (glosses.map fun gloss => gloss.2.count '\\').sum

theorem IsWord.count_slash {word : Text} (h : IsWord word) : word.count '\\' = 0 :=
  List.count_eq_zero_of_not_mem (h.not_mem (by decide +kernel) (by decide))

theorem Element.WellFormed.count_slash {e : Element} (h : e.WellFormed) :
    e.format.count '\\' = glossSlashes e.glosses := by
  induction h with
  | literal text_word => exact text_word.count_slash
  | setRef name_word =>
    rw [format, List.count_cons_of_ne (by decide), name_word.count_slash]
    rfl
  | optional _ ih =>
    rw [format, List.cons_append, List.count_cons_of_ne (by decide), List.count_append, ih]
    rfl
  | @glossed glosses _ keys =>
    have hentries : ∀ e ∈ glosses.entries,
        (e.1 ++ ':' :: '"' :: e.2 ++ ['"']).count '\\' = e.2.count '\\' := by
      intro e he
      simp [(keys e he).count_slash]
    rw [format, List.cons_append, List.count_cons_of_ne (by decide), List.count_append,
      count_intercalate (by decide), List.map_map]
    exact congrArg List.sum (List.map_congr_left hentries)

theorem Alternative.count_slash {a : Alternative} (ha : ∀ e ∈ a, e.WellFormed) :
    (Alternative.ruleText a).count '\\' = glossSlashes (Alternative.glosses a) := by
  have hformat : (Alternative.format a).count '\\' = glossSlashes (Alternative.glosses a) := by
    rw [Alternative.format, count_intercalate (by decide), List.map_map]
    induction a with
    | nil => rfl
    | cons e rest ih =>
      obtain ⟨hfirst, hrest⟩ := List.forall_mem_cons.mp ha
      have hrest := ih hrest
      simp only [List.map_cons, List.sum_cons, hrest, Function.comp_apply, hfirst.count_slash]
      simp [glossSlashes, glosses]
  have hfront : ruleFront.count '\\' = 0 := by decide +kernel
  have hback : [' ', '\x7d'].count '\\' = 0 := rfl
  rw [ruleText, List.count_append, List.count_append, hfront, hformat, hback, Nat.zero_add,
    Nat.add_zero]

/-- Only glosses without quotes and backslashes cost no more backslashes than they have. -/
theorem quotable_of_glossCost_le {glosses : List (Text × Text)}
    (h : glossCost glosses ≤ glossSlashes glosses) : ∀ gloss ∈ glosses, Quotable gloss.2 := by
  have hsplit : glossCost glosses = glossSlashes glosses +
      (glosses.map fun gloss => gloss.2.count '"' + gloss.2.count '\\').sum := by
    unfold glossCost glossSlashes slashCost
    rw [← List.sum_map_add]
    exact congrArg List.sum (List.map_congr_left fun gloss _ => by omega)
  have hnone : (glosses.map fun gloss => gloss.2.count '"' + gloss.2.count '\\').sum = 0 := by
    omega
  intro gloss hgloss
  have hcount := List.sum_eq_zero_iff.mp hnone _ (List.mem_map_of_mem hgloss)
  exact ⟨List.count_eq_zero.mp (by omega), List.count_eq_zero.mp (by omega)⟩

end Counting

section Reading

variable {g : Grammar} {serial : Nat} {text : Text} {a : Alternative}

/-- The glosses of an alternative cost no more backslashes than there are in a text that it is loaded
from. -/
theorem glossCost_le_of_loaded (h : (Loading.ofText serial text).outcome = .ok g) {rule : Rule}
    (hrule : rule ∈ g.allRules) (ha : a ∈ rule.alternatives) :
    glossCost (Alternative.glosses a) ≤ text.count '\\' := by
  obtain ⟨ts, ds, hts, hspells, rfl⟩ := exists_spells_of_loaded h
  have hblock : rule ∈ ruleBlocks serial ds := by
    obtain ⟨rules, hrules, hmem⟩ := List.mem_flatten.mp hrule
    obtain ⟨e, he, rfl⟩ := List.mem_map.mp hrules
    exact ((Grammar.ofDeclarations_denotes serial ds).rules.mem he).2 rule hmem |>.1
  obtain ⟨block, hdeclaration, hblockSub⟩ :=
    hspells.exists_sublist (declaration_mem_of_ruleBlocks hblock)
  obtain ⟨part, hpart, hpartSub⟩ := hdeclaration.exists_sublist ha
  have hsublist : part.Sublist ts := (hpartSub.trans hblockSub).trans (List.takeWhile_sublist _)
  calc glossCost (Alternative.glosses a) ≤ Tokens.slashes part := hpart.glossCost_le
    _ ≤ Tokens.slashes ts := Tokens.slashes_le_of_sublist hsublist
    _ ≤ text.count '\\' := (tokenize_ok_iff.mp hts).slashes_le

theorem Grammar.Declared.elements_wellFormed (hg : g.Declared) {rule : Rule}
    (hrule : rule ∈ g.allRules) (ha : a ∈ rule.alternatives) : ∀ e ∈ a, e.WellFormed := by
  obtain ⟨serial, text, htext⟩ := hg
  obtain ⟨rules, hrules, hmem⟩ := List.mem_flatten.mp hrule
  obtain ⟨e, he, rfl⟩ := List.mem_map.mp hrules
  exact ((Grammar.wellFormed_of_loaded htext).rules e he rule hmem).elements a ha

end Reading

/-- An alternative of a grammar is read back from its notation, as the only one of a rule, exactly
if none of its glosses has a quote or a backslash in it. -/
theorem ruleText_loaded_iff {g : Grammar} (hg : g.Declared) {rule : Rule} (hrule : rule ∈ g.allRules)
    {a : Alternative} (ha : a ∈ rule.alternatives) (serial : Nat) :
    (∃ loaded, (Loading.ofText serial (Alternative.ruleText a)).outcome = .ok loaded ∧
        loaded.allRules.flatMap (·.alternatives) = [a]) ↔
      ∀ gloss ∈ Alternative.glosses a, '"' ∉ gloss.2 ∧ '\\' ∉ gloss.2 := by
  have helements := hg.elements_wellFormed hrule ha
  constructor
  · rintro ⟨loaded, hloaded, hall⟩
    obtain ⟨rule, hrule, ha⟩ := List.mem_flatMap.mp (hall ▸ List.mem_singleton_self a)
    have hcost := glossCost_le_of_loaded hloaded hrule ha
    rw [Alternative.count_slash helements] at hcost
    exact quotable_of_glossCost_le hcost
  · intro hquotable
    exact ⟨_, Alternative.loaded_ruleText serial helements hquotable, rfl⟩

namespace Glossed

/-- A gloss with a quote in it, in an option. -/
def marked : Alternative :=
  [.optional (.glossed (.ofList [(['k'], ['x']), (['l'], ['"', '+'])])), .setRef ['s']]

def bare : Alternative :=
  [.glossed (.ofList [(['k'], ['x', '#'])]), .literal ['a']]

def rule : Rule where
  name := ['n']
  description := []
  alternatives := [marked, bare]
  serial := 1

def grammar : Grammar :=
  .ofDeclarations 1 [.rule ['n'] [] [marked, bare]]

theorem grammar_declared : grammar.Declared := by
  have hletter : ∀ c ∈ ['a', 'k', 'l', 'n', 's'], IsIdentifier [c] := by
    intro c hc
    fin_cases hc <;> exact isIdentifier_letter (by cbv) (by cbv)
  have hkeys : ∀ e ∈ [(['k'], ['x']), (['l'], ['"', '+'])], IsIdentifier (Prod.fst e) :=
    List.forall_mem_cons.mpr ⟨hletter 'k' (by decide),
      List.forall_mem_singleton.mpr (hletter 'l' (by decide))⟩
  have hmarked : ∀ e ∈ marked, e.WellFormed :=
    List.forall_mem_cons.mpr ⟨.optional (.glossed (List.cons_ne_nil _ _) hkeys),
      List.forall_mem_singleton.mpr (.setRef (hletter 's' (by decide)))⟩
  have hbare : ∀ e ∈ bare, e.WellFormed :=
    List.forall_mem_cons.mpr ⟨.glossed (List.cons_ne_nil _ _)
      (List.forall_mem_singleton.mpr (hletter 'k' (by decide))),
      List.forall_mem_singleton.mpr (.literal (hletter 'a' (by decide)))⟩
  have hrule : Declaration.WellFormed (.rule ['n'] [] [marked, bare]) :=
    ⟨hletter 'n' (by decide), List.cons_ne_nil _ _,
      List.forall_mem_cons.mpr ⟨hmarked, List.forall_mem_singleton.mpr hbare⟩⟩
  obtain ⟨text, htext⟩ := exists_loaded_of_wellFormed 1 (List.forall_mem_singleton.mpr hrule)
  exact ⟨1, text, htext⟩

theorem grammar_allRules : grammar.allRules = [rule] :=
  rfl

end Glossed

/-- Of two alternatives the one with a quote in a gloss is not read back, and the other is. -/
theorem glossed_reread :
    Glossed.grammar.Declared ∧
      (¬ ∃ loaded, (Loading.ofText 1 (Alternative.ruleText Glossed.marked)).outcome = .ok loaded ∧
        loaded.allRules.flatMap (·.alternatives) = [Glossed.marked]) ∧
      ∃ loaded, (Loading.ofText 1 (Alternative.ruleText Glossed.bare)).outcome = .ok loaded ∧
        loaded.allRules.flatMap (·.alternatives) = [Glossed.bare] := by
  have hrule : Glossed.rule ∈ Glossed.grammar.allRules :=
    Glossed.grammar_allRules ▸ List.mem_singleton_self _
  have hmarked : Glossed.marked ∈ Glossed.rule.alternatives := List.mem_cons_self
  have hbare : Glossed.bare ∈ Glossed.rule.alternatives :=
    List.mem_cons_of_mem _ (List.mem_singleton_self _)
  refine ⟨Glossed.grammar_declared, fun hread => ?_, ?_⟩
  · have hquotable := (ruleText_loaded_iff Glossed.grammar_declared hrule hmarked 1).mp hread
    exact (hquotable (['l'], ['"', '+']) (by decide)).1 List.mem_cons_self
  · refine (ruleText_loaded_iff Glossed.grammar_declared hrule hbare 1).mpr ?_
    decide

end Morphotactics
