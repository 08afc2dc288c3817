import Morphotactics.Proofs.Grammar.WellFormed
import Morphotactics.Proofs.Token.Rendering

/-! A form in which every well-formed grammar can be written, and is read back from. -/
namespace Morphotactics

section Written

/-! The written forms, as tokens without their places. -/

def writtenWord (keyword : TokenKind) : Unplaced :=
  (keyword, keyword.name)

/-- Parts with a comma between each two. -/
def writtenList {α : Type} (written : α → List Unplaced) : List α → List Unplaced
  | [] => []
  | [a] => written a
  | a :: b :: rest => written a ++ (.comma, [',']) :: writtenList written (b :: rest)

def writtenGloss (gloss : Text × Text) : List Unplaced :=
  [(.identifier, gloss.1), (.colon, [':']), (.string, gloss.2)]

def Element.written : Element → List Unplaced
  | .literal text => [(.identifier, text)]
  | .setRef name => [(.atSign, ['@']), (.identifier, name)]
  | .optional child => (.leftBracket, ['[']) :: child.written ++ [(.rightBracket, [']'])]
  | .glossed glosses =>
    (.leftBrace, ['\x7b']) :: writtenList writtenGloss glosses.entries ++ [(.rightBrace, ['\x7d'])]

def Alternative.written (alternative : Alternative) : List Unplaced :=
  alternative.flatMap Element.written

namespace Condition

def writtenOperand (c : Condition) : Unplaced :=
  if c.pattern = [] then (.literalSet, c.characters) else (.pattern, c.pattern)

def writtenGuard (c : Condition) : List Unplaced :=
  match c.kind with
  | .always => []
  | .endsWith => [writtenWord .endsWith, c.writtenOperand]
  | .startsWith => [writtenWord .startsWith, c.writtenOperand]
  | .isVowel => [writtenWord .isVowel]
  | .isConsonant => [writtenWord .isConsonant]

/-- Where nothing is replaced, a cut, which may be of no character. -/
def writtenChange (c : Condition) : List Unplaced :=
  if c.replacement = [] then [writtenWord .cut, (.number, Text.ofNat c.cut.toNat)]
  else [writtenWord .replace, (.string, c.replacement)]

def written (c : Condition) : List Unplaced :=
  writtenWord .when :: c.writtenGuard ++ c.writtenChange

/-- What a condition asks, without its change. -/
def asked (c : Condition) : Condition :=
  { c with cut := 0, replacement := [] }

end Condition

def SuffixDefinition.written (d : SuffixDefinition) : List Unplaced :=
  writtenGloss (d.suffix, d.description) ++ d.condition.written

def writtenHeader (keyword : TokenKind) (name description : Text) : List Unplaced :=
  [writtenWord keyword, (.identifier, name), (.colon, [':']), (.string, description)] ++
    [(.leftBrace, ['\x7b'])]

/-- After the last alternative of a rule another comma is written: without it, an empty alternative
would be lost there. -/
def Declaration.written : Declaration → List Unplaced
  | .set name description definitions =>
    writtenHeader .suffix name description ++
      writtenList SuffixDefinition.written definitions ++ [(.rightBrace, ['\x7d'])]
  | .rule name description alternatives =>
    writtenHeader .rule name description ++
      writtenList Alternative.written (alternatives ++ [[]]) ++ [(.rightBrace, ['\x7d'])]

def SuffixSet.declaration (set : SuffixSet) : Declaration :=
  .set set.name set.description set.suffixes.values

/-- The declarations of a grammar: its sets, and then its rule blocks. -/
def Grammar.declarations (g : Grammar) : List Declaration :=
  g.sets.values.map SuffixSet.declaration ++ g.allRules.map Rule.declaration

end Written

section Printable

variable {rest : List Unplaced}

theorem Printable.mark {c : Char} {kind : TokenKind} (is_mark : TokenKind.ofChar? c = some kind)
    (tail : Printable rest) : Printable ((kind, [c]) :: rest) := by
  obtain ⟨hword, -, -, -, hset⟩ := TokenKind.of_ofChar? is_mark
  refine .token (.mark is_mark) hset ?_ tail
  revert hword
  cases kind <;> decide

theorem upperText_name {kind : TokenKind} (hmem : kind ∈ TokenKind.keywords) :
    upperText kind.name = kind.name := by
  fin_cases hmem <;> cbv

theorem writes_keyword {kind : TokenKind} (hmem : kind ∈ TokenKind.keywords) :
    Writes kind kind.name kind.name := by
  have hshape : startsIdentifier kind.name = true ∧
      kind.name.tail.all isIdentifierChar = true := by
    fin_cases hmem <;> exact ⟨by cbv, by cbv⟩
  obtain ⟨starts, chars⟩ := hshape
  exact .keyword ⟨starts, List.all_eq_true.mp chars⟩ hmem (upperText_name hmem)

theorem Printable.keyword {kind : TokenKind} (hmem : kind ∈ TokenKind.keywords)
    (takes : kind.takesSet = false) (tail : Printable rest) :
    Printable (writtenWord kind :: rest) := by
  refine .token (writes_keyword hmem) ?_ takes tail
  rintro rfl
  exact absurd hmem (by decide)

theorem Printable.identifier {word : Text} (h : IsIdentifier word) (tail : Printable rest) :
    Printable ((.identifier, word) :: rest) :=
  .token (.identifier h) nofun rfl tail

/-- Any value can be given to a string: quotes and backslashes have a backslash in front. -/
theorem exists_escapes (value : Text) : ∃ inner, Escapes inner value := by
  induction value with
  | nil => exact ⟨[], .nil⟩
  | cons c rest ih =>
    obtain ⟨inner, hinner⟩ := ih
    exact ⟨_, .pair hinner⟩

theorem Printable.string (value : Text) (tail : Printable rest) :
    Printable ((.string, value) :: rest) := by
  obtain ⟨inner, hinner⟩ := exists_escapes value
  exact .token (.string hinner) nofun rfl tail

theorem Printable.ofNat (n : Nat) (tail : Printable rest) :
    Printable ((.number, Text.ofNat n) :: rest) := by
  have hne : Text.ofNat n ≠ [] := Nat.toDigits_ne_nil
  exact .token (.number hne isDecimal_of_mem_ofNat) nofun rfl tail

theorem Printable.list {α : Type} {written : α → List Unplaced} {all : List α}
    (h : ∀ a ∈ all, Printable (written a)) : Printable (writtenList written all) := by
  fun_induction writtenList written all with
  | case1 => exact .nil
  | case2 a => exact h a (List.mem_singleton_self a)
  | case3 a b rest ih =>
    obtain ⟨hfirst, hrest⟩ := List.forall_mem_cons.mp h
    exact hfirst.append (.mark rfl (ih hrest))

theorem Printable.gloss {gloss : Text × Text} (h : IsIdentifier gloss.1) :
    Printable (writtenGloss gloss) :=
  .identifier h (.mark rfl (.string _ .nil))

theorem Element.WellFormed.printable {e : Element} (h : e.WellFormed) : Printable e.written := by
  induction h with
  | literal text_word => exact .identifier text_word .nil
  | setRef name_word => exact .mark rfl (.identifier name_word .nil)
  | optional _ ih => exact .mark rfl (ih.append (.mark rfl .nil))
  | glossed _ keys =>
    exact .mark rfl ((Printable.list fun e he => .gloss (keys e he)).append (.mark rfl .nil))

theorem Alternative.printable {a : Alternative} (h : ∀ e ∈ a, e.WellFormed) :
    Printable (Alternative.written a) := by
  induction a with
  | nil => exact .nil
  | cons e rest ih =>
    obtain ⟨hfirst, hrest⟩ := List.forall_mem_cons.mp h
    exact hfirst.printable.append (ih hrest)

variable {c : Condition}

theorem Condition.WellFormed.printable_operand (h : c.WellFormed) {kind : TokenKind}
    (hmem : kind ∈ TokenKind.keywords) (takes : kind.takesSet = true) :
    Printable [writtenWord kind, c.writtenOperand] := by
  have hset : kind ≠ .literalSet := by
    rintro rfl
    cases takes
  unfold Condition.writtenOperand
  split_ifs
  · exact .operand (writes_keyword hmem) hset takes (.literalSet h.characters) (.inl rfl) .nil
  · exact .operand (writes_keyword hmem) hset takes (.pattern h.pattern) (.inr rfl) .nil

theorem Condition.WellFormed.printable (h : c.WellFormed) : Printable c.written := by
  have hguard : Printable c.writtenGuard := by
    unfold Condition.writtenGuard
    cases c.kind with
    | always => exact .nil
    | endsWith | startsWith => exact h.printable_operand (by decide) rfl
    | isVowel | isConsonant => exact .keyword (by decide) rfl .nil
  have hchange : Printable c.writtenChange := by
    unfold Condition.writtenChange
    split_ifs
    · exact .keyword (by decide) rfl (.ofNat _ .nil)
    · exact .keyword (by decide) rfl (.string _ .nil)
  exact .keyword (by decide) rfl (hguard.append hchange)

theorem SuffixDefinition.WellFormed.printable {d : SuffixDefinition} (h : d.WellFormed) :
    Printable d.written :=
  (Printable.gloss h.suffix).append h.condition.printable

theorem Printable.header {keyword : TokenKind} {name : Text} (description : Text)
    (hmem : keyword ∈ TokenKind.keywords) (takes : keyword.takesSet = false)
    (hname : IsIdentifier name) : Printable (writtenHeader keyword name description) :=
  .keyword hmem takes (.identifier hname (.mark rfl (.string _ (.mark rfl .nil))))

theorem Declaration.WellFormed.printable {d : Declaration} (h : d.WellFormed) :
    Printable d.written := by
  cases d with
  | set name description definitions =>
    have hbody := Printable.list fun d hd => (h.2 d hd).printable
    exact ((Printable.header _ (by decide) rfl h.1).append hbody).append (.mark rfl .nil)
  | rule name description alternatives =>
    have hall : ∀ a ∈ alternatives ++ [[]], Printable (Alternative.written a) := by
      refine List.forall_mem_append.mpr ⟨fun a ha => Alternative.printable (h.2.2 a ha), ?_⟩
      exact List.forall_mem_singleton.mpr .nil
    exact ((Printable.header _ (by decide) rfl h.1).append (.list hall)).append (.mark rfl .nil)

theorem printable_declarations {ds : List Declaration} (h : ∀ d ∈ ds, d.WellFormed) :
    Printable (ds.flatMap Declaration.written) := by
  induction ds with
  | nil => exact .nil
  | cons d rest ih =>
    obtain ⟨hfirst, hrest⟩ := List.forall_mem_cons.mp h
    exact hfirst.printable.append (ih hrest)

end Printable

section Spelled

/-! Tokens with these forms, wherever they stand, spell what has been written. -/

variable {ts : Tokens}

theorem map_unplaced_eq_cons {t : Unplaced} {all : List Unplaced}
    (h : ts.map Token.unplaced = t :: all) :
    ∃ position left, ts = ⟨t.1, t.2, position⟩ :: left ∧ left.map Token.unplaced = all := by
  obtain ⟨⟨kind, text, position⟩, left, rfl, rfl, hleft⟩ := List.map_eq_cons_iff.mp h
  exact ⟨position, left, rfl, hleft⟩

theorem map_unplaced_eq_singleton {t : Unplaced} (h : ts.map Token.unplaced = [t]) :
    ∃ position, ts = [⟨t.1, t.2, position⟩] := by
  obtain ⟨position, left, rfl, hleft⟩ := map_unplaced_eq_cons h
  exact ⟨position, by rw [List.map_eq_nil_iff.mp hleft]⟩

theorem spells_writtenList {α : Type} {spells : Tokens → α → Prop} {written : α → List Unplaced}
    {all : List α} (hne : all ≠ [])
    (hspells : ∀ a ∈ all, ∀ ts : Tokens, ts.map Token.unplaced = written a → spells ts a)
    (h : ts.map Token.unplaced = writtenList written all) : Listed spells ts all := by
  fun_induction writtenList written all generalizing ts with
  | case1 => exact absurd rfl hne
  | case2 a => exact .single (hspells a (List.mem_singleton_self a) ts h)
  | case3 a b rest ih =>
    obtain ⟨hfirst, hrest⟩ := List.forall_mem_cons.mp hspells
    obtain ⟨first, more, rfl, hone, hmore⟩ := List.map_eq_append_iff.mp h
    obtain ⟨position, left, rfl, hleft⟩ := map_unplaced_eq_cons hmore
    exact .cons (hfirst first hone) rfl (ih (List.cons_ne_nil _ _) hrest hleft)

theorem spells_writtenGloss {gloss : Text × Text}
    (h : ts.map Token.unplaced = writtenGloss gloss) : SpellsGloss ts gloss := by
  obtain ⟨_, _, rfl, hcolon⟩ := map_unplaced_eq_cons h
  obtain ⟨_, _, rfl, htext⟩ := map_unplaced_eq_cons hcolon
  obtain ⟨_, rfl⟩ := map_unplaced_eq_singleton htext
  exact .mk rfl rfl rfl

theorem Element.WellFormed.spells {e : Element} (he : e.WellFormed)
    (h : ts.map Token.unplaced = e.written) : SpellsElement ts e := by
  induction he generalizing ts with
  | literal =>
    obtain ⟨_, rfl⟩ := map_unplaced_eq_singleton h
    exact .literal rfl
  | setRef =>
    obtain ⟨_, _, rfl, hname⟩ := map_unplaced_eq_cons h
    obtain ⟨_, rfl⟩ := map_unplaced_eq_singleton hname
    exact .setRef rfl rfl
  | optional _ ih =>
    obtain ⟨_, _, rfl, hrest⟩ := map_unplaced_eq_cons h
    obtain ⟨inner, _, rfl, hinner, hclosing⟩ := List.map_eq_append_iff.mp hrest
    obtain ⟨_, rfl⟩ := map_unplaced_eq_singleton hclosing
    exact .optional rfl (ih hinner) rfl
  | @glossed glosses nonempty =>
    obtain ⟨_, _, rfl, hrest⟩ := map_unplaced_eq_cons h
    obtain ⟨inner, _, rfl, hinner, hclosing⟩ := List.map_eq_append_iff.mp hrest
    obtain ⟨_, rfl⟩ := map_unplaced_eq_singleton hclosing
    have hlisted := spells_writtenList nonempty (fun _ _ _ => spells_writtenGloss) hinner
    exact .glossed rfl hlisted glosses.collects_self rfl

theorem Alternative.spells {a : Alternative} (ha : ∀ e ∈ a, e.WellFormed)
    (h : ts.map Token.unplaced = Alternative.written a) : SpellsAlternative ts a := by
  induction a generalizing ts with
  | nil =>
    rw [List.map_eq_nil_iff.mp h]
    exact .nil
  | cons e rest ih =>
    obtain ⟨hfirst, hrest⟩ := List.forall_mem_cons.mp ha
    obtain ⟨first, more, rfl, hone, hmore⟩ := List.map_eq_append_iff.mp h
    exact .cons (hfirst.spells hone) (ih hrest hmore)

namespace Condition.WellFormed

variable {c : Condition}

theorem spells_operand (hc : c.WellFormed) {t : Token} (h : t.unplaced = c.writtenOperand) :
    SpellsOperand c.kind t c.asked := by
  obtain ⟨operand, text, position⟩ := t
  obtain ⟨kind, characters, pattern, cut, replacement⟩ := c
  unfold writtenOperand at h
  split_ifs at h with hpattern
  · cases hpattern
    cases h
    exact .characters rfl
  · obtain rfl : characters = [] := hc.one_operand.resolve_right hpattern
    cases h
    exact .pattern rfl

theorem spells_guard (hc : c.WellFormed) (h : ts.map Token.unplaced = c.writtenGuard) :
    SpellsGuard ts c.asked := by
  have hoperand := @spells_operand c hc
  have hnone := hc.no_operand
  obtain ⟨kind, characters, pattern, cut, replacement⟩ := c
  cases kind with
  | always =>
    obtain ⟨rfl, rfl⟩ := hnone nofun nofun
    rw [List.map_eq_nil_iff.mp h]
    exact .always
  | endsWith =>
    obtain ⟨_, _, rfl, hasked⟩ := map_unplaced_eq_cons h
    obtain ⟨_, rfl⟩ := map_unplaced_eq_singleton hasked
    exact .endsWith rfl (hoperand rfl)
  | startsWith =>
    obtain ⟨_, _, rfl, hasked⟩ := map_unplaced_eq_cons h
    obtain ⟨_, rfl⟩ := map_unplaced_eq_singleton hasked
    exact .startsWith rfl (hoperand rfl)
  | isVowel =>
    obtain ⟨rfl, rfl⟩ := hnone nofun nofun
    obtain ⟨_, rfl⟩ := map_unplaced_eq_singleton h
    exact .isVowel rfl
  | isConsonant =>
    obtain ⟨rfl, rfl⟩ := hnone nofun nofun
    obtain ⟨_, rfl⟩ := map_unplaced_eq_singleton h
    exact .isConsonant rfl

theorem spells_change (hc : c.WellFormed) (h : ts.map Token.unplaced = c.writtenChange) :
    SpellsChange c.asked ts c := by
  unfold writtenChange at h
  split_ifs at h with hreplacement
  · obtain ⟨_, _, rfl, hnumber⟩ := map_unplaced_eq_cons h
    obtain ⟨_, rfl⟩ := map_unplaced_eq_singleton hnumber
    have hcut : (c.cut.toNat : Int) = c.cut := Int.toNat_of_nonneg hc.cut_nonneg
    have hlt : c.cut.toNat < 10 ^ maxDigits := by
      have hlt := hc.cut_lt
      rw [← hcut] at hlt
      exact_mod_cast hlt
    have hvalue : readInteger (Text.ofNat c.cut.toNat) = .ok c.cut := by
      rw [readInteger_ofNat hlt, hcut]
    -- What is asked has no change, so that a change of one field gives the condition back.
    have hchanged : { c.asked with cut := c.cut } = c := by
      rw [asked, ← hreplacement]
    exact hchanged ▸ SpellsChange.cut rfl rfl hvalue
  · obtain ⟨_, _, rfl, htext⟩ := map_unplaced_eq_cons h
    obtain ⟨_, rfl⟩ := map_unplaced_eq_singleton htext
    have hchanged : { c.asked with replacement := c.replacement } = c := by
      rw [asked, ← hc.one_change.resolve_right hreplacement]
    exact hchanged ▸ SpellsChange.replace rfl rfl

theorem spells (hc : c.WellFormed) (h : ts.map Token.unplaced = c.written) :
    SpellsCondition ts c := by
  obtain ⟨_, rest, rfl, hrest⟩ := map_unplaced_eq_cons h
  obtain ⟨asked, change, rfl, hasked, hchange⟩ := List.map_eq_append_iff.mp hrest
  exact .when rfl (hc.spells_guard hasked) (hc.spells_change hchange)

end Condition.WellFormed

theorem SuffixDefinition.WellFormed.spells {d : SuffixDefinition} (hd : d.WellFormed)
    (h : ts.map Token.unplaced = d.written) : SpellsDefinition ts d := by
  obtain ⟨head, more, rfl, hhead, hmore⟩ := List.map_eq_append_iff.mp h
  exact .mk (spells_writtenGloss hhead) (hd.condition.spells hmore)

theorem spells_writtenHeader {keyword : TokenKind} {name description : Text}
    (h : ts.map Token.unplaced = writtenHeader keyword name description) :
    SpellsHeader keyword ts (name, description) := by
  obtain ⟨head, _, rfl, hhead, hopening⟩ := List.map_eq_append_iff.mp h
  obtain ⟨_, rfl⟩ := map_unplaced_eq_singleton hopening
  obtain ⟨_, _, rfl, hname⟩ := map_unplaced_eq_cons hhead
  obtain ⟨_, _, rfl, hcolon⟩ := map_unplaced_eq_cons hname
  obtain ⟨_, _, rfl, htext⟩ := map_unplaced_eq_cons hcolon
  obtain ⟨_, rfl⟩ := map_unplaced_eq_singleton htext
  exact .mk rfl rfl (.some rfl rfl) rfl

theorem withoutEmptyLast_append {all : List Alternative} (h : all ≠ []) :
    withoutEmptyLast (all ++ [[]]) = all := by
  have hlength : 0 < all.length := List.length_pos_iff.mpr h
  rw [withoutEmptyLast, if_pos ⟨by simpa using hlength, List.getLast?_concat⟩,
    List.dropLast_concat]

theorem Declaration.WellFormed.spells {d : Declaration} (hd : d.WellFormed)
    (h : ts.map Token.unplaced = d.written) : SpellsDeclaration ts d := by
  cases d with
  | set name description definitions =>
    obtain ⟨before, _, rfl, hbefore, hclosing⟩ := List.map_eq_append_iff.mp h
    obtain ⟨_, rfl⟩ := map_unplaced_eq_singleton hclosing
    obtain ⟨head, body, rfl, hhead, hbody⟩ := List.map_eq_append_iff.mp hbefore
    have hdefinitions : SpellsDefinitions body definitions := by
      by_cases hempty : definitions = []
      · subst hempty
        rw [List.map_eq_nil_iff.mp hbody]
        exact .nil
      · exact .listed (spells_writtenList hempty (fun d hmem _ => (hd.2 d hmem).spells) hbody)
    exact .set (spells_writtenHeader hhead) hdefinitions rfl
  | rule name description alternatives =>
    obtain ⟨before, _, rfl, hbefore, hclosing⟩ := List.map_eq_append_iff.mp h
    obtain ⟨_, rfl⟩ := map_unplaced_eq_singleton hclosing
    obtain ⟨head, body, rfl, hhead, hbody⟩ := List.map_eq_append_iff.mp hbefore
    have hall : ∀ a ∈ alternatives ++ [[]], ∀ e ∈ a, e.WellFormed :=
      List.forall_mem_append.mpr ⟨hd.2.2, List.forall_mem_singleton.mpr (List.forall_mem_nil _)⟩
    have hlisted : Listed SpellsAlternative body (alternatives ++ [[]]) :=
      spells_writtenList (by simp) (fun a hmem _ => Alternative.spells (hall a hmem)) hbody
    rw [← withoutEmptyLast_append hd.2.1]
    exact .rule (spells_writtenHeader hhead) hlisted rfl

theorem spells_declarations {ds : List Declaration} (hds : ∀ d ∈ ds, d.WellFormed)
    (h : ts.map Token.unplaced = ds.flatMap Declaration.written) : SpellsDeclarations ts ds := by
  induction ds generalizing ts with
  | nil =>
    rw [List.map_eq_nil_iff.mp h]
    exact .nil
  | cons d rest ih =>
    obtain ⟨hfirst, hrest⟩ := List.forall_mem_cons.mp hds
    obtain ⟨first, more, rfl, hone, hmore⟩ := List.map_eq_append_iff.mp h
    exact .cons (hfirst.spells hone) (ih hrest hmore)

end Spelled

/-- A text in which tokens are written is loaded as what these spell. -/
theorem loaded_of_rendered (serial : Nat) {text : Text} {all : List Unplaced}
    {ds : List Declaration} (h : Rendered none text all)
    (hspells : ∀ ts : Tokens, ts.map Token.unplaced = all → SpellsDeclarations ts ds) :
    (Loading.ofText serial text).outcome = .ok (.ofDeclarations serial ds) := by
  obtain ⟨ts, place, htokenizes, hts⟩ := h.tokenizes .start
  have hds := hspells ts hts
  have hbefore : SpellsDeclarations (ts ++ [⟨.eof, [], place⟩] : Tokens).beforeEnd ds := by
    rwa [Tokens.beforeEnd_append hds.endless rfl]
  rw [ofText_of_tokenize serial (tokenize_ok_iff.mpr htokenizes),
    readDeclarations_of_spells hbefore]

/-- Well-formed declarations are what some text declares. -/
theorem exists_loaded_of_wellFormed (serial : Nat) {ds : List Declaration}
    (h : ∀ d ∈ ds, d.WellFormed) :
    ∃ text, (Loading.ofText serial text).outcome = .ok (.ofDeclarations serial ds) := by
  obtain ⟨sources, hsources⟩ := (printable_declarations h).exists_sourced
  have hrendered := (printable_declarations h).rendered hsources none rfl
  exact ⟨spaced sources, loaded_of_rendered serial hrendered fun _ => spells_declarations h⟩

end Morphotactics
