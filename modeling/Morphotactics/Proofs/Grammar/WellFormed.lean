import Morphotactics.Proofs.Grammar.Merging
import Morphotactics.Proofs.Text.Numeral
import Morphotactics.Proofs.Token.Written

/-! Grammars that have a form in which they can be written. Whatever is loaded from a text is
well-formed: every token gives a part that can be written as this token. -/
namespace Morphotactics

/-- At most one change, a cut that is not too long, and an operand only where one is asked for. -/
structure Condition.WellFormed (c : Condition) : Prop where
  one_change : c.cut = 0 ∨ c.replacement = []
  cut_nonneg : 0 ≤ c.cut
  cut_lt : c.cut < 10 ^ maxDigits
  no_operand : c.kind ≠ .endsWith → c.kind ≠ .startsWith → c.characters = [] ∧ c.pattern = []
  one_operand : c.characters = [] ∨ c.pattern = []
  characters : ']' ∉ c.characters
  pattern : Paired '/' c.pattern

structure SuffixDefinition.WellFormed (d : SuffixDefinition) : Prop where
  suffix : IsIdentifier d.suffix
  condition : d.condition.WellFormed

structure SuffixSet.WellFormed (set : SuffixSet) : Prop where
  name : IsIdentifier set.name
  keyed : ∀ e ∈ set.suffixes.entries, e.2.suffix = e.1
  definitions : ∀ e ∈ set.suffixes.entries, e.2.WellFormed

/-- All names in the element are identifiers, and it has no empty list of glosses. -/
inductive Element.WellFormed : Element → Prop
  | literal {text : Text} (text_word : IsIdentifier text) : WellFormed (.literal text)
  | setRef {name : Text} (name_word : IsIdentifier name) : WellFormed (.setRef name)
  | optional {child : Element} (inner : child.WellFormed) : WellFormed (.optional child)
  | glossed {glosses : Table Text} (nonempty : glosses.entries ≠ [])
      (keys : ∀ e ∈ glosses.entries, IsIdentifier e.1) : WellFormed (.glossed glosses)

structure Rule.WellFormed (rule : Rule) : Prop where
  name : IsIdentifier rule.name
  nonempty : rule.alternatives ≠ []
  elements : ∀ alternative ∈ rule.alternatives, ∀ e ∈ alternative, e.WellFormed

/-- Sets and rule blocks stand under their own names, and every rule has a block. -/
structure Grammar.WellFormed (g : Grammar) : Prop where
  set_name : ∀ e ∈ g.sets.entries, e.2.name = e.1
  sets : ∀ e ∈ g.sets.entries, e.2.WellFormed
  rule_name : ∀ e ∈ g.rules.entries, ∀ rule ∈ e.2, rule.name = e.1
  blocks : ∀ e ∈ g.rules.entries, e.2 ≠ []
  rules : ∀ e ∈ g.rules.entries, ∀ rule ∈ e.2, rule.WellFormed

def Declaration.WellFormed : Declaration → Prop
  | .set name _ definitions => IsIdentifier name ∧ ∀ d ∈ definitions, d.WellFormed
  | .rule name _ alternatives =>
    IsIdentifier name ∧ alternatives ≠ [] ∧ ∀ a ∈ alternatives, ∀ e ∈ a, e.WellFormed

section Tokens

/-- Every token stands for what can be written. -/
def Tokens.Written (ts : Tokens) : Prop :=
  ∀ t ∈ ts, ∃ source, Writes t.kind source t.text

@[simp] theorem Tokens.written_cons {t : Token} {ts : Tokens} :
    Tokens.Written (t :: ts) ↔ (∃ source, Writes t.kind source t.text) ∧ ts.Written :=
  List.forall_mem_cons

@[simp] theorem Tokens.written_append {ts more : Tokens} :
    Tokens.Written (ts ++ more) ↔ ts.Written ∧ more.Written :=
  List.forall_mem_append

theorem Tokenizes.written {previous : Option TokenKind} {position : Position} {text : Text}
    {ts : Tokens} (h : Tokenizes previous position text ts) :
    ∀ t ∈ ts, t.kind ≠ .eof → ∃ source, Writes t.kind source t.text := by
  induction h with
  | ended => exact List.forall_mem_singleton.mpr fun hkind => absurd rfl hkind
  | @token _ _ _ gap _ source _ _ _ _ _ scans _ ih =>
    exact List.forall_mem_cons.mpr ⟨fun _ => ⟨source, (scans.writes gap).1⟩, ih⟩

theorem Tokenizes.written_beforeEnd {previous : Option TokenKind} {position : Position}
    {text : Text} {ts : Tokens} (h : Tokenizes previous position text ts) : ts.beforeEnd.Written := by
  intro t ht
  have hkind := List.mem_takeWhile_imp (p := fun t : Token => decide (t.kind ≠ .eof)) ht
  exact h.written t ((List.takeWhile_sublist _).subset ht) (of_decide_eq_true hkind)

/-- The text of a token of each kind with a value. -/
theorem text_of_writes {t : Token} (h : ∃ source, Writes t.kind source t.text) :
    (t.kind = .identifier → IsIdentifier t.text) ∧
      (t.kind = .number → t.text ≠ [] ∧ ∀ c ∈ t.text, isDecimal c) ∧
        (t.kind = .literalSet → ']' ∉ t.text) ∧ (t.kind = .pattern → Paired '/' t.text) := by
  obtain ⟨kind, text, position⟩ := t
  obtain ⟨source, h⟩ := h
  dsimp only at h ⊢
  cases h with
  | identifier identifier => exact ⟨fun _ => identifier, nofun, nofun, nofun⟩
  | keyword _ is_keyword =>
    refine ⟨?_, ?_, ?_, ?_⟩ <;> rintro rfl <;> exact absurd is_keyword (by decide)
  | number nonempty decimal => exact ⟨nofun, fun _ => ⟨nonempty, decimal⟩, nofun, nofun⟩
  | mark is_mark =>
    obtain ⟨hword, hnumber, -, hpattern, hset⟩ := TokenKind.of_ofChar? is_mark
    refine ⟨?_, fun hk => absurd hk hnumber, fun hk => absurd hk hset, fun hk => absurd hk hpattern⟩
    rintro rfl
    cases hword
  | string => exact ⟨nofun, nofun, nofun, nofun⟩
  | pattern paired => exact ⟨nofun, nofun, nofun, fun _ => paired⟩
  | literalSet open_set => exact ⟨nofun, nofun, fun _ => open_set, nofun⟩

end Tokens

theorem Table.ofList_ne_nil {α : Type} {entries : List (Text × α)} (h : entries ≠ []) :
    (Table.ofList entries).entries ≠ [] := by
  obtain ⟨e, rest, rfl⟩ := List.exists_cons_of_ne_nil h
  intro hempty
  have hkeys := (Table.collects_ofList (e :: rest)).keys_eq
  rw [Table.keys, hempty, List.map_cons, List.eraseDups_cons] at hkeys
  cases hkeys

theorem withoutEmptyLast_ne_nil {all : List Alternative} (h : all ≠ []) :
    withoutEmptyLast all ≠ [] := by
  unfold withoutEmptyLast
  split_ifs with hlast
  · exact List.length_pos_iff.mp (by rw [List.length_dropLast]; omega)
  · exact h

theorem mem_of_mem_withoutEmptyLast {all : List Alternative} {a : Alternative}
    (h : a ∈ withoutEmptyLast all) : a ∈ all := by
  unfold withoutEmptyLast at h
  split_ifs at h
  · exact List.mem_of_mem_dropLast h
  · exact h

section Parts

variable {ts : Tokens}

theorem SpellsGloss.wellFormed {gloss : Text × Text} (h : SpellsGloss ts gloss)
    (hts : ts.Written) : IsIdentifier gloss.1 := by
  cases h with
  | mk name_kind => exact (text_of_writes (Tokens.written_cons.mp hts).1).1 name_kind

theorem Listed.forall_of_written {α : Type} {spells : Tokens → α → Prop} {p : α → Prop}
    {all : List α} (h : Listed spells ts all) (hspells : ∀ ts a, spells ts a → ts.Written → p a)
    (hts : ts.Written) : ∀ a ∈ all, p a := by
  induction h with
  | single first => exact List.forall_mem_singleton.mpr (hspells _ _ first hts)
  | cons first _ _ ih =>
    obtain ⟨hfirst, hrest⟩ := Tokens.written_append.mp hts
    exact List.forall_mem_cons.mpr ⟨hspells _ _ first hfirst, ih (Tokens.written_cons.mp hrest).2⟩

theorem SpellsElement.wellFormed {e : Element} (h : SpellsElement ts e) (hts : ts.Written) :
    e.WellFormed := by
  induction h with
  | literal word_kind => exact .literal ((text_of_writes (Tokens.written_cons.mp hts).1).1 word_kind)
  | setRef mark_kind name_kind =>
    have hname := (Tokens.written_cons.mp (Tokens.written_cons.mp hts).2).1
    exact .setRef ((text_of_writes hname).1 name_kind)
  | optional _ _ _ ih =>
    exact .optional (ih (Tokens.written_cons.mp (Tokens.written_append.mp hts).1).2)
  | @glossed opening closing ts glosses table opening_kind inner collects closing_kind =>
    have hkeys := inner.forall_of_written (fun _ _ gloss => gloss.wellFormed)
      (Tokens.written_cons.mp (Tokens.written_append.mp hts).1).2
    obtain rfl := collects.unique (Table.collects_ofList glosses)
    refine .glossed (Table.ofList_ne_nil inner.ne_nil) fun e he => hkeys e (Table.mem_ofList he)

theorem SpellsAlternative.wellFormed {a : Alternative} (h : SpellsAlternative ts a)
    (hts : ts.Written) : ∀ e ∈ a, e.WellFormed := by
  induction h with
  | nil => exact List.forall_mem_nil _
  | cons first _ ih =>
    obtain ⟨hfirst, hrest⟩ := Tokens.written_append.mp hts
    exact List.forall_mem_cons.mpr ⟨first.wellFormed hfirst, ih hrest⟩
  | plus first _ _ ih =>
    obtain ⟨hfirst, hrest⟩ := Tokens.written_append.mp hts
    exact List.forall_mem_cons.mpr
      ⟨first.wellFormed hfirst, ih (Tokens.written_cons.mp hrest).2⟩

/-- A condition that asks something and changes nothing. -/
theorem Condition.WellFormed.guard {kind : ConditionKind} {characters pattern : Text}
    (no_operand : kind ≠ .endsWith → kind ≠ .startsWith → characters = [] ∧ pattern = [])
    (one_operand : characters = [] ∨ pattern = []) (hset : ']' ∉ characters)
    (hpattern : Paired '/' pattern) :
    Condition.WellFormed { kind, characters, pattern } :=
  ⟨.inl rfl, le_rfl, by positivity, no_operand, one_operand, hset, hpattern⟩

theorem SpellsOperand.wellFormed {kind : ConditionKind} {t : Token} {c : Condition}
    (h : SpellsOperand kind t c) (hkind : kind = .endsWith ∨ kind = .startsWith)
    (ht : ∃ source, Writes t.kind source t.text) : c.WellFormed := by
  have hasked : kind ≠ .endsWith → kind ≠ .startsWith → False :=
    fun hends hstarts => hkind.elim hends hstarts
  cases h with
  | characters set_kind =>
    exact .guard (fun hends hstarts => (hasked hends hstarts).elim) (.inr rfl)
      ((text_of_writes ht).2.2.1 set_kind) .nil
  | pattern pattern_kind =>
    exact .guard (fun hends hstarts => (hasked hends hstarts).elim) (.inl rfl)
      List.not_mem_nil ((text_of_writes ht).2.2.2 pattern_kind)

theorem SpellsGuard.wellFormed {c : Condition} (h : SpellsGuard ts c) (hts : ts.Written) :
    c.WellFormed ∧ c.cut = 0 ∧ c.replacement = [] := by
  have hplain : ∀ kind : ConditionKind, Condition.WellFormed { kind } :=
    fun kind => .guard (fun _ _ => ⟨rfl, rfl⟩) (.inl rfl) List.not_mem_nil .nil
  cases h with
  | always => exact ⟨hplain _, rfl, rfl⟩
  | isVowel | isConsonant => exact ⟨hplain _, rfl, rfl⟩
  | endsWith _ asked =>
    have ht := (Tokens.written_cons.mp (Tokens.written_cons.mp hts).2).1
    exact ⟨asked.wellFormed (.inl rfl) ht, by cases asked <;> exact ⟨rfl, rfl⟩⟩
  | startsWith _ asked =>
    have ht := (Tokens.written_cons.mp (Tokens.written_cons.mp hts).2).1
    exact ⟨asked.wellFormed (.inr rfl) ht, by cases asked <;> exact ⟨rfl, rfl⟩⟩

theorem SpellsChange.wellFormed {asked c : Condition} (h : SpellsChange asked ts c)
    (hts : ts.Written) (hasked : asked.WellFormed) (hcut : asked.cut = 0)
    (hreplacement : asked.replacement = []) : c.WellFormed := by
  cases h with
  | none => exact hasked
  | @cut word number n word_kind number_kind value =>
    have hnumber := (Tokens.written_cons.mp (Tokens.written_cons.mp hts).2).1
    obtain ⟨hne, hdigits⟩ := (text_of_writes hnumber).2.1 number_kind
    obtain ⟨hnonneg, hlt⟩ := readInteger_range hne hdigits value
    exact { hasked with
      one_change := .inr hreplacement
      cut_nonneg := hnonneg
      cut_lt := hlt }
  | replace => exact { hasked with one_change := .inl hcut }

theorem SpellsCondition.wellFormed {c : Condition} (h : SpellsCondition ts c)
    (hts : ts.Written) : c.WellFormed := by
  cases h with
  | none => exact (SpellsGuard.always.wellFormed (List.forall_mem_nil _)).1
  | when _ guard change =>
    obtain ⟨hguard, hchange⟩ := Tokens.written_append.mp hts
    obtain ⟨hasked, hcut, hreplacement⟩ := guard.wellFormed (Tokens.written_cons.mp hguard).2
    exact change.wellFormed hchange hasked hcut hreplacement

theorem SpellsDefinition.wellFormed {d : SuffixDefinition} (h : SpellsDefinition ts d)
    (hts : ts.Written) : d.WellFormed := by
  cases h with
  | mk head condition =>
    obtain ⟨hhead, hcondition⟩ := Tokens.written_append.mp hts
    exact ⟨head.wellFormed hhead, condition.wellFormed hcondition⟩

theorem SpellsDefinitions.wellFormed {ds : List SuffixDefinition} (h : SpellsDefinitions ts ds)
    (hts : ts.Written) : ∀ d ∈ ds, d.WellFormed := by
  cases h with
  | nil => exact List.forall_mem_nil _
  | listed all => exact all.forall_of_written (fun _ _ d => d.wellFormed) hts
  | trailing all =>
    exact all.forall_of_written (fun _ _ d => d.wellFormed) (Tokens.written_append.mp hts).1

theorem SpellsHeader.wellFormed {keyword : TokenKind} {header : Text × Text}
    (h : SpellsHeader keyword ts header) (hts : ts.Written) : IsIdentifier header.1 := by
  cases h with
  | mk word_kind name_kind =>
    have hname := (Tokens.written_cons.mp (Tokens.written_cons.mp
      (Tokens.written_append.mp hts).1).2).1
    exact (text_of_writes hname).1 name_kind

theorem SpellsDeclaration.wellFormed {d : Declaration} (h : SpellsDeclaration ts d)
    (hts : ts.Written) : d.WellFormed := by
  cases h with
  | set header body =>
    obtain ⟨hheader, hbody⟩ := Tokens.written_append.mp (Tokens.written_append.mp hts).1
    exact ⟨header.wellFormed hheader, body.wellFormed hbody⟩
  | @rule head ts closing name description alternatives header body =>
    obtain ⟨hheader, hbody⟩ := Tokens.written_append.mp (Tokens.written_append.mp hts).1
    have hall := body.forall_of_written (fun _ _ a => a.wellFormed) hbody
    refine ⟨header.wellFormed hheader, withoutEmptyLast_ne_nil body.ne_nil, fun a ha => ?_⟩
    exact hall a (mem_of_mem_withoutEmptyLast ha)

theorem SpellsDeclarations.wellFormed {ds : List Declaration} (h : SpellsDeclarations ts ds)
    (hts : ts.Written) : ∀ d ∈ ds, d.WellFormed := by
  induction h with
  | nil => exact List.forall_mem_nil _
  | cons first _ ih =>
    obtain ⟨hfirst, hrest⟩ := Tokens.written_append.mp hts
    exact List.forall_mem_cons.mpr ⟨first.wellFormed hfirst, ih hrest⟩

end Parts

section Loaded

variable {ds : List Declaration} {g : Grammar} {serial : Nat}

theorem Rule.wellFormed_iff {rule : Rule} : rule.WellFormed ↔ rule.declaration.WellFormed :=
  ⟨fun h => ⟨h.name, h.nonempty, h.elements⟩, fun h => ⟨h.1, h.2.1, h.2.2⟩⟩

theorem DeclaresSets.wellFormed {entries : List (Text × SuffixSet)} (h : DeclaresSets ds entries)
    (hds : ∀ d ∈ ds, d.WellFormed) : ∀ e ∈ entries, e.2.name = e.1 ∧ e.2.WellFormed := by
  induction h with
  | nil => exact List.forall_mem_nil _
  | @set name description definitions suffixes rest entries collects _ ih =>
    obtain ⟨⟨hname, hdefinitions⟩, hrest⟩ := List.forall_mem_cons.mp hds
    have hmem : ∀ e ∈ suffixes.entries, ∃ d ∈ definitions, (d.suffix, d) = e :=
      fun e he => List.mem_map.mp (collects.mem he)
    refine List.forall_mem_cons.mpr ⟨⟨rfl, hname, fun e he => ?_, fun e he => ?_⟩, ih hrest⟩
    · obtain ⟨d, -, rfl⟩ := hmem e he
      rfl
    · obtain ⟨d, hd, rfl⟩ := hmem e he
      exact hdefinitions d hd
  | rule _ ih => exact ih (List.forall_mem_cons.mp hds).2

theorem declaration_mem_of_ruleBlocks {rule : Rule} (h : rule ∈ ruleBlocks serial ds) :
    rule.declaration ∈ ds := by
  have hmem := List.mem_map_of_mem (f := Rule.declaration) h
  rw [ruleBlocks_declaration] at hmem
  exact List.mem_of_mem_filter hmem

theorem ruleBlocks_wellFormed (hds : ∀ d ∈ ds, d.WellFormed) :
    ∀ rule ∈ ruleBlocks serial ds, rule.WellFormed :=
  fun _ hr => Rule.wellFormed_iff.mpr (hds _ (declaration_mem_of_ruleBlocks hr))

theorem Table.Groups.mem {table : Table (List Rule)} {blocks : List Rule} (h : table.Groups blocks)
    {e : Text × List Rule} (he : e ∈ table.entries) :
    e.2 ≠ [] ∧ ∀ rule ∈ e.2, rule ∈ blocks ∧ rule.name = e.1 := by
  have hgroup : e.2 = blocks.filter (·.name = e.1) := by
    rw [← h.find?_eq e.1, Table.find?_eq_some_iff.mpr he, Option.getD_some]
  have hname : e.1 ∈ blocks.map (·.name) := by
    rw [← List.mem_eraseDups, ← h.keys_eq]
    exact List.mem_map_of_mem he
  obtain ⟨rule, hr, hrule⟩ := List.mem_map.mp hname
  rw [hgroup]
  refine ⟨List.ne_nil_of_mem (List.mem_filter.mpr ⟨hr, decide_eq_true hrule⟩), fun rule hr => ?_⟩
  obtain ⟨hmem, hrule⟩ := List.mem_filter.mp hr
  exact ⟨hmem, of_decide_eq_true hrule⟩

theorem Grammar.Denotes.wellFormed (h : g.Denotes serial ds) (hds : ∀ d ∈ ds, d.WellFormed) :
    g.WellFormed := by
  obtain ⟨entries, hentries, hcollects⟩ := h.sets
  have hsets : ∀ e ∈ g.sets.entries, e.2.name = e.1 ∧ e.2.WellFormed :=
    fun e he => hentries.wellFormed hds e (hcollects.mem he)
  exact {
    set_name := fun e he => (hsets e he).1
    sets := fun e he => (hsets e he).2
    rule_name := fun e he rule hr => ((h.rules.mem he).2 rule hr).2
    blocks := fun e he => (h.rules.mem he).1
    rules := fun e he rule hr => ruleBlocks_wellFormed hds rule ((h.rules.mem he).2 rule hr).1 }

/-- A grammar is loaded from a text through its tokens. -/
theorem exists_spells_of_loaded {text : Text}
    (h : (Loading.ofText serial text).outcome = .ok g) :
    ∃ (ts : Tokens) (ds : List Declaration), tokenize text = .ok ts ∧
      SpellsDeclarations ts.beforeEnd ds ∧ g = .ofDeclarations serial ds := by
  cases hts : tokenize text with
  | error e =>
    rw [Loading.ofText, hts] at h
    cases h
  | ok ts =>
    rw [ofText_of_tokenize serial hts] at h
    cases hending : (readDeclarations ts).ending with
    | error e =>
      rw [hending] at h
      cases h
    | ok =>
      rw [hending] at h
      exact ⟨ts, _, rfl, spells_of_readDeclarations hending, (Except.ok.inj h).symm⟩

/-- What a text gives can be written. -/
theorem Grammar.wellFormed_of_loaded {text : Text}
    (h : (Loading.ofText serial text).outcome = .ok g) : g.WellFormed := by
  obtain ⟨ts, ds, hts, hspells, rfl⟩ := exists_spells_of_loaded h
  have hwritten := (tokenize_ok_iff.mp hts).written_beforeEnd
  exact (ofDeclarations_denotes serial ds).wellFormed (hspells.wellFormed hwritten)

end Loaded

end Morphotactics
