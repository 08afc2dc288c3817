import Morphotactics.Proofs.Grammar.Declaration
import Morphotactics.Proofs.Token.Scanning

/-! Suffixes that are read from a text: each is spelled by an identifier of the text. -/
namespace Morphotactics

def Tokens.identifiers (ts : Tokens) : List Text :=
  (ts.filter (·.kind = .identifier)).map (·.text)

@[simp] theorem Tokens.identifiers_append (ts more : Tokens) :
    Tokens.identifiers (ts ++ more) = ts.identifiers ++ more.identifiers := by
  rw [Tokens.identifiers, List.filter_append, List.map_append]
  rfl

@[simp] theorem Tokens.identifiers_cons (t : Token) (ts : Tokens) :
    Tokens.identifiers (t :: ts) =
      if t.kind = .identifier then t.text :: ts.identifiers else ts.identifiers := by
  by_cases h : t.kind = .identifier <;> simp [Tokens.identifiers, h]

variable {ts : Tokens}

theorem SpellsDefinition.suffix_mem {d : SuffixDefinition} (h : SpellsDefinition ts d) :
    d.suffix ∈ ts.identifiers := by
  obtain ⟨⟨name_kind, _, _⟩, _⟩ := h
  simp [name_kind]

theorem Listed.suffix_mem {ds : List SuffixDefinition} (h : Listed SpellsDefinition ts ds) :
    ∀ d ∈ ds, d.suffix ∈ ts.identifiers := by
  induction h with
  | single first => exact List.forall_mem_singleton.mpr first.suffix_mem
  | @cons ts more comma d rest first comma_kind _ ih =>
    rw [Tokens.identifiers_append, Tokens.identifiers_cons, comma_kind]
    refine List.forall_mem_cons.mpr ⟨List.mem_append_left _ first.suffix_mem, fun d hd => ?_⟩
    exact List.mem_append_right _ (ih d hd)

theorem SpellsDefinitions.suffix_mem {ds : List SuffixDefinition} (h : SpellsDefinitions ts ds) :
    ∀ d ∈ ds, d.suffix ∈ ts.identifiers := by
  cases h with
  | nil => exact List.forall_mem_nil _
  | listed all => exact all.suffix_mem
  | trailing all _ =>
    intro d hd
    rw [Tokens.identifiers_append]
    exact List.mem_append_left _ (all.suffix_mem d hd)

def Declaration.suffixes : Declaration → List Text
  | .set _ _ definitions => definitions.map (·.suffix)
  | .rule _ _ _ => []

theorem SpellsDeclaration.suffixes_subset {d : Declaration} (h : SpellsDeclaration ts d) :
    d.suffixes ⊆ ts.identifiers := by
  cases h with
  | @set head ts closing name description definitions _ body _ =>
    intro suffix hsuffix
    obtain ⟨d, hd, rfl⟩ := List.mem_map.mp hsuffix
    rw [Tokens.identifiers_append, Tokens.identifiers_append]
    exact List.mem_append_left _ (List.mem_append_right _ (body.suffix_mem d hd))
  | rule => exact List.nil_subset _

/-- Also where the reading fails, the suffixes of what has been read are identifiers. -/
theorem readDeclarations_identifiers (ts : Tokens) :
    ∀ d ∈ (readDeclarations ts).declarations, d.suffixes ⊆ ts.identifiers := by
  fun_induction readDeclarations ts with
  | case1 | case2 => simp
  | case3 ts _ d left hd more ih =>
    obtain ⟨taken, hspells, rfl⟩ := readDeclaration_sound hd
    rw [Tokens.identifiers_append]
    refine List.forall_mem_cons.mpr ⟨?_, fun d' hd' => ?_⟩
    · exact List.subset_append_of_subset_left _ hspells.suffixes_subset
    · exact List.subset_append_of_subset_right _ (ih d' hd')

theorem lexemes_source_ne_nil (previous : Option TokenKind) (text : Text) :
    ∀ l ∈ (lexemes previous text).1, l.source ≠ [] := by
  fun_induction lexemes previous text with
  | case1 | case2 => simp
  | case3 _ _ _ _ _ _ _ _ _ ht _ _ hr ih =>
    rw [hr] at ih
    exact List.forall_mem_cons.mpr ⟨(scanToken_ok_iff.mp ht).source_ne_nil, ih⟩

theorem placeTokens_identifiers {position : Position} {all : List Lexeme} {ending : LexEnd}
    {ts : Tokens} (h : placeTokens position all ending = .ok ts) :
    ∀ name ∈ ts.identifiers, ∃ l ∈ all, l.source = name := by
  induction all generalizing position ts with
  | nil =>
    cases ending with
    | complete gap =>
      obtain rfl := Except.ok.inj h
      simp [Tokens.identifiers]
    | stuck => cases h
  | cons l rest ih =>
    obtain ⟨tokens, htokens, h⟩ := bind_eq_ok_iff.mp h
    obtain rfl := pure_eq_ok_iff.mp h
    intro name hname
    by_cases hkind : l.kind = .identifier
    · simp only [Tokens.identifiers, hkind, decide_true, List.filter_cons_of_pos,
        List.map_cons, List.mem_cons] at hname
      obtain rfl | hname := hname
      · exact ⟨l, List.mem_cons_self, by simp [Lexeme.value, hkind]⟩
      · obtain ⟨l', hl', hsource⟩ := ih htokens name hname
        exact ⟨l', List.mem_cons_of_mem l hl', hsource⟩
    · have hskip : name ∈ Tokens.identifiers tokens := by
        simpa [Tokens.identifiers, hkind] using hname
      obtain ⟨l', hl', hsource⟩ := ih htokens name hskip
      exact ⟨l', List.mem_cons_of_mem l hl', hsource⟩

/-- No identifier of a text is empty. -/
theorem tokenize_identifiers_ne_nil {text : Text} {ts : Tokens} (h : tokenize text = .ok ts) :
    ∀ name ∈ ts.identifiers, name ≠ [] := by
  intro name hname
  obtain ⟨l, hl, rfl⟩ := placeTokens_identifiers h name hname
  exact lexemes_source_ne_nil none text l hl

end Morphotactics
