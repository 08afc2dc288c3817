import Morphotactics.Proofs.Grammar.Printing

/-! Numbers that cannot be read. They make the one error of a grammar without a place: every other
error says where it is found. -/
namespace Morphotactics

variable {ts left : Tokens}

section Faultless

variable {α β : Type}

/-- The outcome is not that a number cannot be read. -/
def Faultless (outcome : Except ParseError α) : Prop :=
  ∀ fault, outcome ≠ .error (.numeral fault)

theorem faultless_ok (a : α) : Faultless (.ok a) :=
  nofun

theorem faultless_refuse (expected : Expected) (ts : Tokens) :
    Faultless (refuse expected ts : Except ParseError α) :=
  nofun

theorem Faultless.bind {first : Except ParseError α} {second : α → Except ParseError β}
    (hfirst : Faultless first) (hsecond : ∀ a, first = .ok a → Faultless (second a)) :
    Faultless (first >>= second) := by
  intro fault h
  obtain h | ⟨a, ha, h⟩ := bind_eq_error_iff.mp h
  · exact hfirst fault h
  · exact hsecond a ha fault h

theorem expect_faultless (kind : TokenKind) (ts : Tokens) : Faultless (expect kind ts) := by
  cases ts with
  | nil => exact faultless_refuse _ _
  | cons t rest =>
    rw [expect]
    split_ifs
    · exact faultless_ok _
    · exact faultless_refuse _ _

theorem readGloss_faultless (ts : Tokens) : Faultless (readGloss ts) :=
  (expect_faultless _ _).bind fun _ _ => (expect_faultless _ _).bind fun _ _ =>
    (expect_faultless _ _).bind fun _ _ => faultless_ok _

theorem readGlosses_faultless (ts : Tokens) : Faultless (readGlosses ts) := by
  fun_induction readGlosses ts with
  | case1 ts e he =>
    rintro fault ⟨⟩
    exact readGloss_faultless ts fault he
  | case2 ts gloss ts' _ _ ih => exact ih.bind fun _ _ => faultless_ok _
  | case3 => exact faultless_ok _

theorem readElement_faultless (ts : Tokens) : Faultless (readElement ts) := by
  induction ts with
  | nil => exact faultless_refuse _ _
  | cons t ts ih =>
    rw [readElement]
    split
    · exact (readGlosses_faultless ts).bind fun _ _ =>
        (expect_faultless _ _).bind fun _ _ => faultless_ok _
    · exact ih.bind fun _ _ => (expect_faultless _ _).bind fun _ _ => faultless_ok _
    · exact (expect_faultless _ _).bind fun _ _ => faultless_ok _
    · exact faultless_ok _
    · exact faultless_refuse _ _

theorem readAlternative_faultless (ts : Tokens) : Faultless (readAlternative ts) := by
  fun_induction readAlternative ts with
  | case1 => exact faultless_ok _
  | case2 ts _ e he =>
    rintro fault ⟨⟩
    exact readElement_faultless ts fault he
  | case3 ts _ element ts' _ ih => exact ih.bind fun _ _ => faultless_ok _

theorem readAlternatives_faultless (ts : Tokens) : Faultless (readAlternatives ts) := by
  fun_induction readAlternatives ts with
  | case1 ts e he =>
    rintro fault ⟨⟩
    exact readAlternative_faultless ts fault he
  | case2 => exact faultless_ok _
  | case3 ts a ts' _ _ _ ih => exact ih.bind fun _ _ => faultless_ok _
  | case4 => exact faultless_ok _

theorem readOperand_faultless (kind : ConditionKind) (ts : Tokens) :
    Faultless (readOperand kind ts) := by
  unfold readOperand
  split_ifs
  · exact (expect_faultless _ _).bind fun _ _ => faultless_ok _
  · exact (expect_faultless _ _).bind fun _ _ => faultless_ok _
  · exact faultless_refuse _ _

theorem readGuard_faultless (ts : Tokens) : Faultless (readGuard ts) := by
  unfold readGuard
  split
  · exact readOperand_faultless _ _
  · exact readOperand_faultless _ _
  all_goals exact faultless_ok _

theorem readDescription_faultless (ts : Tokens) : Faultless (readDescription ts) := by
  unfold readDescription
  split_ifs
  · exact (expect_faultless _ _).bind fun _ _ => expect_faultless _ _
  · exact faultless_ok _

theorem readHeader_faultless (keyword : TokenKind) (ts : Tokens) :
    Faultless (readHeader keyword ts) :=
  (expect_faultless _ _).bind fun _ _ => (expect_faultless _ _).bind fun _ _ =>
    (readDescription_faultless _).bind fun _ _ =>
      (expect_faultless _ _).bind fun _ _ => faultless_ok _

end Faultless

section Cut

/-! How a grammar is spelled up to the change of a condition: all that comes before the word. -/

inductive ConditionUpToChange : Tokens → Prop
  | mk {word : Token} {ts : Tokens} {asked : Condition} (word_kind : word.kind = .when)
      (guard : SpellsGuard ts asked) : ConditionUpToChange (word :: ts)

inductive DefinitionUpToChange : Tokens → Prop
  | mk {ts more : Tokens} {gloss : Text × Text} (head : SpellsGloss ts gloss)
      (condition : ConditionUpToChange more) : DefinitionUpToChange (ts ++ more)

inductive DefinitionsUpToChange : Tokens → Prop
  | last {ts : Tokens} (definition : DefinitionUpToChange ts) : DefinitionsUpToChange ts
  | cons {ts more : Tokens} {comma : Token} {d : SuffixDefinition} (first : SpellsDefinition ts d)
      (comma_kind : comma.kind = .comma) (others : DefinitionsUpToChange more) :
      DefinitionsUpToChange (ts ++ comma :: more)

inductive DeclarationUpToChange : Tokens → Prop
  | mk {head ts : Tokens} {header : Text × Text} (opened : SpellsHeader .suffix head header)
      (body : DefinitionsUpToChange ts) : DeclarationUpToChange (head ++ ts)

inductive DeclarationsUpToChange : Tokens → Prop
  | last {ts : Tokens} (declaration : DeclarationUpToChange ts) : DeclarationsUpToChange ts
  | cons {ts more : Tokens} {d : Declaration} (first : SpellsDeclaration ts d)
      (others : DeclarationsUpToChange more) : DeclarationsUpToChange (ts ++ more)

/-- A cut by a number that cannot be read, whatever follows. -/
inductive FaultyCut (fault : NumeralFault) : Tokens → Prop
  | mk {word number : Token} {rest : Tokens} (word_kind : word.kind = .cut)
      (number_kind : number.kind = .number) (faulty : readInteger number.text = .error fault) :
      FaultyCut fault (word :: number :: rest)

variable {fault : NumeralFault}

theorem readChange_fault_iff {asked : Condition} :
    readChange asked ts = .error (.numeral fault) ↔ FaultyCut fault ts := by
  constructor
  · intro h
    unfold readChange at h
    split_ifs at h with hcut hreplace
    · obtain ⟨word, word_kind, hts⟩ := Tokens.exists_cons_of_at? hcut (by decide)
      obtain h | ⟨⟨spelled, rest⟩, he, h⟩ := bind_eq_error_iff.mp h
      · exact absurd h (expect_faultless _ _ fault)
      · obtain ⟨number, number_kind, rfl, htail⟩ := expect_ok_iff.mp he
        dsimp only at h
        split at h
        · cases h
        · rename_i value
          cases h
          rw [hts, htail]
          exact .mk word_kind number_kind value
    · obtain h | ⟨_, -, h⟩ := bind_eq_error_iff.mp h
      · exact absurd h (expect_faultless _ _ fault)
      · cases h
  · rintro ⟨word_kind, number_kind, faulty⟩
    rw [readChange, if_pos (Tokens.at?_of_kind word_kind)]
    refine bind_eq_error_iff.mpr (.inr ⟨_, expect_cons number_kind, ?_⟩)
    dsimp only
    rw [faulty]

theorem FaultyCut.not_asks (h : FaultyCut fault left) : ¬ left.current.kind.asks := by
  cases h with
  | mk word_kind => simp [TokenKind.asks, Tokens.current, word_kind]

theorem readCondition_fault_iff : readCondition ts = .error (.numeral fault) ↔
    ∃ before left, ConditionUpToChange before ∧ FaultyCut fault left ∧ ts = before ++ left := by
  constructor
  · intro h
    unfold readCondition at h
    split_ifs at h with hwhen
    obtain ⟨word, word_kind, hts⟩ := Tokens.exists_cons_of_at? hwhen (by decide)
    obtain h | ⟨⟨asked, rest⟩, hguard, h⟩ := bind_eq_error_iff.mp h
    · exact absurd h (readGuard_faultless _ fault)
    · obtain ⟨taken, guard, htail⟩ := readGuard_sound hguard
      refine ⟨_, rest, .mk word_kind guard, readChange_fault_iff.mp h, ?_⟩
      rw [hts, htail, List.cons_append]
  · rintro ⟨_, left, ⟨word_kind, guard⟩, hcut, rfl⟩
    rw [List.cons_append, readCondition, if_pos (Tokens.at?_of_kind word_kind)]
    exact bind_eq_error_iff.mpr (.inr ⟨_, readGuard_complete guard hcut.not_asks,
      readChange_fault_iff.mpr hcut⟩)

theorem readDefinition_fault_iff : readDefinition ts = .error (.numeral fault) ↔
    ∃ before left, DefinitionUpToChange before ∧ FaultyCut fault left ∧ ts = before ++ left := by
  constructor
  · intro h
    obtain h | ⟨⟨⟨suffix, description⟩, rest⟩, hgloss, h⟩ := bind_eq_error_iff.mp h
    · exact absurd h (readGloss_faultless _ fault)
    · obtain hcondition | ⟨_, -, hnone⟩ := bind_eq_error_iff.mp h
      · obtain ⟨taken, head, rfl⟩ := readGloss_ok_iff.mp hgloss
        obtain ⟨before, left, hbefore, hcut, rfl⟩ := readCondition_fault_iff.mp hcondition
        exact ⟨_, left, .mk head hbefore, hcut, by rw [List.append_assoc]⟩
      · cases hnone
  · rintro ⟨_, left, ⟨head, condition⟩, hcut, rfl⟩
    have hcondition := readCondition_fault_iff.mpr ⟨_, left, condition, hcut, rfl⟩
    rw [List.append_assoc]
    exact bind_eq_error_iff.mpr (.inr ⟨_, readGloss_ok_iff.mpr ⟨_, head, rfl⟩,
      bind_eq_error_iff.mpr (.inl hcondition)⟩)

theorem DefinitionUpToChange.not_at?_rightBrace (h : DefinitionUpToChange ts) (left : Tokens) :
    ¬ (ts ++ left).at? .rightBrace := by
  obtain ⟨⟨name_kind, _, _⟩, _⟩ := h
  simp [name_kind]

/-- Complete definitions with commas behind them may come before the one with the fault. -/
theorem readDefinitions_fault_iff : (readDefinitions ts).2 = .error (.numeral fault) ↔
    ∃ before left, DefinitionsUpToChange before ∧ FaultyCut fault left ∧ ts = before ++ left := by
  constructor
  · intro h
    fun_induction readDefinitions ts with
    | case1 => cases h
    | case2 ts _ e he =>
      obtain rfl := Except.error.inj h
      obtain ⟨before, left, hbefore, hcut, rfl⟩ := readDefinition_fault_iff.mp he
      exact ⟨_, left, .last hbefore, hcut, rfl⟩
    | case3 ts _ d ts' hd hcomma more ending hr ih =>
      rw [hr] at ih
      obtain ⟨before, left, hbefore, hcut, htail⟩ := ih h
      obtain ⟨taken, hdefinition, rfl⟩ := readDefinition_sound hd
      obtain ⟨comma, comma_kind, hts'⟩ := Tokens.exists_cons_of_at? hcomma (by decide)
      refine ⟨_, left, .cons hdefinition comma_kind hbefore, hcut, ?_⟩
      rw [hts', htail, List.append_assoc, List.cons_append]
    | case4 => cases h
    | case5 => cases h
  · rintro ⟨before, left, hbefore, hcut, rfl⟩
    induction hbefore with
    | last definition =>
      have hdefinition := readDefinition_fault_iff.mpr ⟨_, left, definition, hcut, rfl⟩
      rw [readDefinitions_eq, if_neg (definition.not_at?_rightBrace left), hdefinition]
    | @cons ts more comma d first comma_kind _ ih =>
      have hcomma : Tokens.at? (comma :: more ++ left) .comma := Tokens.at?_of_kind comma_kind
      rw [List.append_assoc, readDefinitions_eq, if_neg (first.not_at?_rightBrace _),
        readDefinition_complete first (.inl hcomma)]
      dsimp only
      rw [if_pos hcomma]
      exact ih

theorem readDeclaration_fault_iff : readDeclaration ts = .error (.numeral fault) ↔
    ∃ before left, DeclarationUpToChange before ∧ FaultyCut fault left ∧ ts = before ++ left := by
  constructor
  · intro h
    unfold readDeclaration at h
    split_ifs at h
    · obtain h | ⟨⟨header, rest⟩, hheader, h⟩ := bind_eq_error_iff.mp h
      · exact absurd h (readHeader_faultless _ _ fault)
      dsimp only at h
      obtain hending | ⟨_, -, hclosing⟩ := bind_eq_error_iff.mp h
      · obtain ⟨head, opened, rfl⟩ := readHeader_ok_iff.mp hheader
        obtain ⟨before, left, hbefore, hcut, rfl⟩ := readDefinitions_fault_iff.mp hending
        exact ⟨_, left, .mk opened hbefore, hcut, by rw [List.append_assoc]⟩
      · exact absurd hclosing ((expect_faultless _ _).bind (fun _ _ => faultless_ok _) fault)
    · refine absurd h (Faultless.bind (readHeader_faultless _ _) (fun _ _ => ?_) fault)
      exact (readAlternatives_faultless _).bind fun _ _ =>
        (expect_faultless _ _).bind fun _ _ => faultless_ok _
    · cases h
  · rintro ⟨_, left, ⟨opened, body⟩, hcut, rfl⟩
    have hbody := readDefinitions_fault_iff.mpr ⟨_, left, body, hcut, rfl⟩
    rw [List.append_assoc, readDeclaration, if_pos (opened.at? _)]
    refine bind_eq_error_iff.mpr (.inr ⟨_, readHeader_ok_iff.mpr ⟨_, opened, rfl⟩, ?_⟩)
    exact bind_eq_error_iff.mpr (.inl hbody)

theorem DeclarationUpToChange.not_at?_eof (h : DeclarationUpToChange ts) (left : Tokens) :
    ¬ (ts ++ left).at? .eof := by
  obtain ⟨opened, _⟩ := h
  rw [List.append_assoc]
  exact Tokens.not_at?_of_at? (opened.at? _) (by decide)

theorem readDeclarations_fault_iff :
    (readDeclarations ts).ending = .error (.numeral fault) ↔
      ∃ before left, DeclarationsUpToChange before ∧ FaultyCut fault left ∧
        ts = before ++ left := by
  constructor
  · intro h
    fun_induction readDeclarations ts with
    | case1 => cases h
    | case2 ts _ e he =>
      obtain rfl := Except.error.inj h
      obtain ⟨before, left, hbefore, hcut, rfl⟩ := readDeclaration_fault_iff.mp he
      exact ⟨_, left, .last hbefore, hcut, rfl⟩
    | case3 ts _ d rest hd more ih =>
      obtain ⟨before, left, hbefore, hcut, rfl⟩ := ih h
      obtain ⟨taken, hdeclaration, rfl⟩ := readDeclaration_sound hd
      exact ⟨_, left, .cons hdeclaration hbefore, hcut, by rw [List.append_assoc]⟩
  · rintro ⟨before, left, hbefore, hcut, rfl⟩
    induction hbefore with
    | last declaration =>
      have hdeclaration := readDeclaration_fault_iff.mpr ⟨_, left, declaration, hcut, rfl⟩
      rw [readDeclarations_eq, if_neg (declaration.not_at?_eof left), hdeclaration]
    | cons first _ ih =>
      rw [List.append_assoc, readDeclarations_eq, if_neg (first.not_at?_eof _),
        readDeclaration_complete first]
      exact ih

end Cut

/-- The place that an error names. -/
def LoadError.position? : LoadError → Option Position
  | .lexical e => some e.position
  | .parse (.unexpected _ _ position) => some position
  | .parse (.numeral _) | .noEnd => none

section Loading

variable {text : Text} {fault : NumeralFault} {digits : Nat}

/-- Where a condition of a suffix may have its change, the text has a cut by a number of so many
digits, which are too many to be read. What stands before this is in order. -/
def LongCut (text : Text) (digits : Nat) : Prop :=
  ∃ before word number rest, tokenize text = .ok (before ++ word :: number :: rest) ∧
    DeclarationsUpToChange before ∧ word.kind = .cut ∧ number.kind = .number ∧
      number.text.length = digits ∧ maxDigits < digits

/-- In the tokens of a text a number has only digits, so that it can but be too long. -/
theorem readInteger_fault_iff (hts : tokenize text = .ok ts) {number : Token} (hmem : number ∈ ts)
    (hkind : number.kind = .number) : readInteger number.text = .error fault ↔
      maxDigits < number.text.length ∧ fault = .tooLong number.text.length := by
  have hwritten := (tokenize_ok_iff.mp hts).written number hmem (by simp [hkind])
  obtain ⟨hne, hdecimal⟩ := (text_of_writes hwritten).2.1 hkind
  rw [readInteger_of_isDecimal hne hdecimal]
  split_ifs with hlong
  · simp [hlong, eq_comm]
  · simp [hlong]

theorem fault_iff_longCut (hts : tokenize text = .ok ts) :
    (readDeclarations ts).ending = .error (.numeral fault) ↔
      ∃ digits, LongCut text digits ∧ fault = .tooLong digits := by
  rw [readDeclarations_fault_iff]
  constructor
  · rintro ⟨before, _, hbefore, ⟨word_kind, number_kind, faulty⟩, rfl⟩
    obtain ⟨hlong, hfault⟩ := (readInteger_fault_iff hts (by simp) number_kind).mp faulty
    exact ⟨_, ⟨before, _, _, _, hts, hbefore, word_kind, number_kind, rfl, hlong⟩, hfault⟩
  · rintro ⟨_, ⟨before, word, number, rest, htokens, hbefore, word_kind, number_kind, rfl, hlong⟩,
      rfl⟩
    obtain rfl := Except.ok.inj (hts.symm.trans htokens)
    have faulty := (readInteger_fault_iff hts (by simp) number_kind).mpr ⟨hlong, rfl⟩
    exact ⟨before, _, hbefore, .mk word_kind number_kind faulty, rfl⟩

theorem ofText_of_longCut (serial : Nat) (h : LongCut text digits) :
    (Loading.ofText serial text).outcome = .error (.parse (.numeral (.tooLong digits))) := by
  obtain ⟨before, word, number, rest, hts, hcut⟩ := h
  have hending := (fault_iff_longCut hts).mpr ⟨digits, ⟨before, word, number, rest, hts, hcut⟩, rfl⟩
  rw [ofText_of_tokenize serial hts, hending]

theorem ofText_of_not_longCut (serial : Nat) (h : ¬ ∃ digits, LongCut text digits) :
    (∃ g, (Loading.ofText serial text).outcome = .ok g) ∨
      ∃ e position, (Loading.ofText serial text).outcome = .error e ∧
        e.position? = some position := by
  cases hts : tokenize text with
  | error e =>
    rw [Loading.ofText, hts]
    exact .inr ⟨.lexical e, _, rfl, rfl⟩
  | ok ts =>
    rw [ofText_of_tokenize serial hts]
    cases hending : (readDeclarations ts).ending with
    | ok => exact .inl ⟨_, rfl⟩
    | error e =>
      cases e with
      | unexpected expected found position => exact .inr ⟨_, position, rfl, rfl⟩
      | numeral fault =>
        obtain ⟨digits, hcut, -⟩ := (fault_iff_longCut hts).mp hending
        exact absurd ⟨digits, hcut⟩ h

/-- A text is loaded or refused at a place of it, unless it has a cut by a number of too many digits
before any other error. Then the number of its digits is all that the error says. -/
theorem loaded_or_placed_iff (serial : Nat) (text : Text) :
    (((∃ g, (Loading.ofText serial text).outcome = .ok g) ∨
        ∃ e position, (Loading.ofText serial text).outcome = .error e ∧
          e.position? = some position) ↔ ¬ ∃ digits, LongCut text digits) ∧
      ∀ digits, LongCut text digits →
        (Loading.ofText serial text).outcome = .error (.parse (.numeral (.tooLong digits))) := by
  refine ⟨⟨?_, ofText_of_not_longCut serial⟩, fun digits hcut => ofText_of_longCut serial hcut⟩
  rintro hloaded ⟨digits, hcut⟩
  rw [ofText_of_longCut serial hcut] at hloaded
  obtain ⟨g, hg⟩ | ⟨e, position, he, hposition⟩ := hloaded
  · cases hg
  · cases he
    cases hposition

end Loading

namespace Zeros

variable {digits : Nat}

/-- The tokens up to the change of a condition. -/
def opening : List Unplaced :=
  writtenHeader .suffix ['s'] [] ++ (writtenGloss (['a'], ['x']) ++ [writtenWord .when])

/-- A cut of nothing, by a zero that is written with so many digits. -/
def cut (digits : Nat) : List Unplaced :=
  [writtenWord .cut, (.number, List.replicate digits '0'), (.rightBrace, ['\x7d'])]

def text (digits : Nat) : Text :=
  spaced ["SUFFIX".toList, ['s'], [':'], ['"', '"'], ['\x7b'], ['a'], [':'], ['"', 'x', '"'],
    "WHEN".toList, "CUT".toList, List.replicate digits '0', ['\x7d']]

theorem isIdentifier_s : IsIdentifier ['s'] :=
  isIdentifier_letter (by cbv) (by cbv)

theorem isIdentifier_a : IsIdentifier ['a'] :=
  isIdentifier_letter (by cbv) (by cbv)

theorem writes_zeros (h : digits ≠ 0) :
    Writes .number (List.replicate digits '0') (List.replicate digits '0') := by
  refine .number (by simpa using h) fun c hc => ?_
  rw [List.eq_of_mem_replicate hc]
  cbv

theorem text_rendered (h : digits ≠ 0) : Rendered none (text digits) (opening ++ cut digits) := by
  have hcut : Printable (cut digits) :=
    .keyword (by decide) rfl (.token (writes_zeros h) nofun rfl (.mark rfl .nil))
  have hopening : Printable opening :=
    (Printable.header [] (by decide) rfl isIdentifier_s).append
      ((Printable.gloss isIdentifier_a).append (.keyword (by decide) rfl .nil))
  have hheader : Sourced ["SUFFIX".toList, ['s'], [':'], ['"', '"'], ['\x7b']]
      (writtenHeader .suffix ['s'] []) :=
    .cons (writes_keyword (by decide)) (.cons (.identifier isIdentifier_s) (.cons (.mark rfl)
      (.cons (.string .nil) (.cons (.mark rfl) .nil))))
  have hgloss : Sourced [['a'], [':'], ['"', 'x', '"']] (writtenGloss (['a'], ['x'])) :=
    .cons (.identifier isIdentifier_a) (.cons (.mark rfl)
      (.cons (.string (.single (by decide) (by decide) .nil)) .nil))
  have hchange : Sourced ["WHEN".toList, "CUT".toList, List.replicate digits '0', ['\x7d']]
      (writtenWord .when :: cut digits) :=
    .cons (writes_keyword (by decide)) (.cons (writes_keyword (by decide))
      (.cons (writes_zeros h) (.cons (.mark rfl) .nil)))
  exact (hopening.append hcut).rendered (List.rel_append hheader (List.rel_append hgloss hchange))
    none rfl

theorem text_longCut (h : maxDigits < digits) : LongCut (text digits) digits := by
  have hne : digits ≠ 0 := Nat.ne_zero_of_lt h
  obtain ⟨ts, place, htokenizes, hts⟩ := (text_rendered hne).tokenizes .start
  obtain ⟨before, change, rfl, hbefore, hchange⟩ := List.map_eq_append_iff.mp hts
  obtain ⟨head, definition, rfl, hhead, hdefinition⟩ := List.map_eq_append_iff.mp hbefore
  obtain ⟨gloss, condition, rfl, hgloss, hcondition⟩ := List.map_eq_append_iff.mp hdefinition
  obtain ⟨_, rfl⟩ := map_unplaced_eq_singleton hcondition
  obtain ⟨_, _, rfl, hnumber⟩ := map_unplaced_eq_cons hchange
  obtain ⟨_, _, rfl, -⟩ := map_unplaced_eq_cons hnumber
  have htokens := tokenize_ok_iff.mpr htokenizes
  rw [List.append_assoc, List.cons_append, List.cons_append] at htokens
  refine ⟨_, _, _, _, htokens, ?_, rfl, rfl, List.length_replicate, h⟩
  exact .last (.mk (spells_writtenHeader hhead)
    (.last (.mk (spells_writtenGloss hgloss) (.mk rfl .always))))

end Zeros

/-- A cut by a zero of 4301 digits is neither read nor refused at a place. -/
theorem zeros_unplaced :
    ¬ ((∃ g, (Loading.ofText 1 (Zeros.text 4301)).outcome = .ok g) ∨
      ∃ e position, (Loading.ofText 1 (Zeros.text 4301)).outcome = .error e ∧
        e.position? = some position) := by
  have hcut : LongCut (Zeros.text 4301) 4301 := Zeros.text_longCut (by decide)
  rw [ofText_of_longCut 1 hcut]
  rintro (⟨g, hg⟩ | ⟨e, position, he, hposition⟩)
  · cases hg
  · cases he
    cases hposition

end Morphotactics
