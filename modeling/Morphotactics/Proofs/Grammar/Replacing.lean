import Mathlib
import Morphotactics.Proofs.Condition
import Morphotactics.Proofs.Grammar.Printing
import Morphotactics.Proofs.Pattern.Leftmost
import Morphotactics.Proofs.Token.Layout

/-! Suffixes whose condition has a pattern and a replacement, from their text to the stems they
attach to: the replacement takes the place of the leftmost match, unless one of the two is empty. -/
namespace Morphotactics

namespace Side

/-- The word in front of an operand that is tied to this side. -/
def keyword : Side → TokenKind
  | .opening => .startsWith
  | .closing => .endsWith

def kind : Side → ConditionKind
  | .opening => .startsWith
  | .closing => .endsWith

end Side

/-- What is written of a suffix that replaces what a pattern finds at one side of the stem. -/
structure Replacing where
  side : Side
  suffix : Text
  description : Text
  operand : Text
  replacement : Text

namespace Replacing

variable (r : Replacing)

/-- Keywords may be spelled in different ways. -/
def conditionTokens (spelling : TokenKind → Text) : List Unplaced :=
  [(.when, spelling .when), (r.side.keyword, spelling r.side.keyword), (.pattern, r.operand),
    (.replace, spelling .replace), (.string, r.replacement)]

/-- The tokens of a suffix set with just this suffix. -/
def tokens (spelling : TokenKind → Text) (name : Text) : List Unplaced :=
  ([(.suffix, spelling .suffix), (.identifier, name)] ++ [(.leftBrace, ['\x7b'])]) ++
    (writtenGloss (r.suffix, r.description) ++ r.conditionTokens spelling) ++
      [(.rightBrace, ['\x7d'])]

def condition : Condition where
  kind := r.side.kind
  pattern := r.operand
  replacement := r.replacement

def definition : SuffixDefinition :=
  ⟨r.suffix, r.description, r.condition⟩

variable {r}

section Reading

variable {spelling : TokenKind → Text} {name : Text} {ts : Tokens}

theorem spells_condition (h : ts.map Token.unplaced = r.conditionTokens spelling) :
    SpellsCondition ts r.condition := by
  obtain ⟨side, suffix, description, operand, replacement⟩ := r
  obtain ⟨_, _, rfl, hkeyword⟩ := map_unplaced_eq_cons h
  obtain ⟨_, _, rfl, hoperand⟩ := map_unplaced_eq_cons hkeyword
  obtain ⟨_, _, rfl, hreplace⟩ := map_unplaced_eq_cons hoperand
  obtain ⟨_, _, rfl, hstring⟩ := map_unplaced_eq_cons hreplace
  obtain ⟨_, rfl⟩ := map_unplaced_eq_singleton hstring
  cases side with
  | opening => exact .when rfl (.startsWith rfl (.pattern rfl)) (.replace rfl rfl)
  | closing => exact .when rfl (.endsWith rfl (.pattern rfl)) (.replace rfl rfl)

theorem spells (h : ts.map Token.unplaced = r.tokens spelling name) :
    SpellsDeclarations ts [.set name [] [r.definition]] := by
  obtain ⟨front, _, rfl, hfront, hclosing⟩ := List.map_eq_append_iff.mp h
  obtain ⟨_, rfl⟩ := map_unplaced_eq_singleton hclosing
  obtain ⟨head, body, rfl, hhead, hbody⟩ := List.map_eq_append_iff.mp hfront
  obtain ⟨gloss, more, rfl, hgloss, hcondition⟩ := List.map_eq_append_iff.mp hbody
  obtain ⟨_, _, rfl, hwords, hopening⟩ := List.map_eq_append_iff.mp hhead
  obtain ⟨_, rfl⟩ := map_unplaced_eq_singleton hopening
  obtain ⟨_, _, rfl, hname⟩ := map_unplaced_eq_cons hwords
  obtain ⟨_, rfl⟩ := map_unplaced_eq_singleton hname
  have hdefinition : SpellsDefinition (gloss ++ more) r.definition :=
    .mk (spells_writtenGloss hgloss) (spells_condition hcondition)
  rw [← List.append_nil (_ ++ _)]
  exact .cons (.set (.mk rfl rfl .none rfl) (.listed (.single hdefinition)) rfl) .nil

/-- Any operand that can stand between slashes and any replacement can be written, with spaces
around the tokens. -/
theorem rendered (hname : IsIdentifier name) (hsuffix : IsIdentifier r.suffix)
    (hoperand : Paired '/' r.operand) :
    Rendered none (laidOut ((r.tokens TokenKind.name name).map (([' '], ·))) [])
      (r.tokens TokenKind.name name) := by
  have hkeyword : ∀ kind ∈ TokenKind.keywords, Spellable (kind, kind.name) :=
    fun kind hkind => .keyword hkind (upperText_name hkind)
  have hside : Spellable (r.side.keyword, r.side.keyword.name) := by
    cases r.side <;> exact hkeyword _ (by decide)
  have hspellable : ∀ t ∈ r.tokens TokenKind.name name, Spellable t := by
    simp only [tokens, conditionTokens, writtenGloss, List.cons_append, List.nil_append,
      List.forall_mem_cons]
    exact ⟨hkeyword _ (by decide), .identifier hname, .mark rfl, .identifier hsuffix, .mark rfl,
      .string _, hkeyword _ (by decide), hside, .pattern hoperand, hkeyword _ (by decide),
      .string _, .mark rfl, List.forall_mem_nil _⟩
  have hfits : Fitting none ((r.tokens TokenKind.name name).map Prod.fst) := by
    cases hr : r.side <;>
      simp [tokens, conditionTokens, writtenGloss, hr, Side.keyword, Fitting, Fits,
        TokenKind.takesSet]
  have hspaces : ∀ part ∈ (r.tokens TokenKind.name name).map (([' '], ·)),
      Spellable part.2 ∧ Padding part.1 ∧ part.1 ≠ [] :=
    List.forall_mem_map.mpr fun t ht =>
      ⟨hspellable t ht, .blank (by cbv) .nil, List.cons_ne_nil _ _⟩
  have hrendered : Rendered none (laidOut ((r.tokens TokenKind.name name).map (([' '], ·))) []) _ :=
    rendered_laidOut (fun part hpart => (hspaces part hpart).1)
      (fun part hpart => (hspaces part hpart).2.1)
      (fun part hpart => (hspaces part (List.mem_of_mem_tail hpart)).2.2) .nil
      (by rwa [List.map_map])
  rw [List.map_map] at hrendered
  exact List.map_id (r.tokens TokenKind.name name) ▸ hrendered

end Reading

section Attaching

variable {stem : Text} {node : Pattern.Node}

theorem side_eq (r : Replacing) : r.condition.side = r.side := by
  obtain ⟨side, suffix, description, operand, replacement⟩ := r
  cases side <;> rfl

theorem kind_eq (r : Replacing) :
    r.condition.kind = .endsWith ∨ r.condition.kind = .startsWith := by
  obtain ⟨side, suffix, description, operand, replacement⟩ := r
  cases side
  · exact .inr rfl
  · exact .inl rfl

theorem find?_eq (hread : Pattern.Node.read (Pattern.anchored r.side r.operand) = .ok node)
    (stem : Text) : r.condition.find? stem = .ok (node.search Pattern.startMode [] stem) := by
  have hpattern : Pattern.find? r.side r.operand stem =
      .ok (node.search Pattern.startMode [] stem) := by
    rw [Pattern.find?, hread]
    rfl
  have hoperand : r.condition.pattern = r.operand := rfl
  rw [Condition.find?, side_eq, hoperand, hpattern]

theorem holds_eq (hread : Pattern.Node.read (Pattern.anchored r.side r.operand) = .ok node)
    (hstem : stem ≠ []) : r.condition.holds stem =
      .ok (r.condition.usesPattern && (node.search Pattern.startMode [] stem).isSome) := by
  cases hp : r.condition.usesPattern with
  | false => exact Condition.holds_of_no_operand r.kind_eq hp rfl hstem
  | true =>
    rw [Condition.holds_of_pattern r.kind_eq hp hstem, find?_eq hread]
    rfl

/-- A match somewhere in the stem lets the suffix attach, if the operand is not empty. -/
theorem holds_iff (hread : Pattern.Node.read (Pattern.anchored r.side r.operand) = .ok node)
    (hstem : stem ≠ []) : ∃ holds, r.condition.holds stem = .ok holds ∧
      (holds = true ↔ r.operand ≠ [] ∧ node.HasMatch Pattern.startMode stem) := by
  refine ⟨_, holds_eq hread hstem, ?_⟩
  rw [Bool.and_eq_true, Pattern.hasMatch_iff_search]
  simp [Condition.usesPattern, condition]

/-- The replacement takes the place of the leftmost match, if it is not empty. -/
theorem exists_apply (hread : Pattern.Node.read (Pattern.anchored r.side r.operand) = .ok node)
    (hoperand : r.operand ≠ []) (hmatch : node.HasMatch Pattern.startMode stem) :
    ∃ found, node.Leftmost Pattern.startMode stem found ∧
      r.condition.apply stem =
        .ok (if r.replacement = [] then stem
          else found.before ++ r.replacement ++ found.after) := by
  obtain ⟨found, hfound⟩ := Option.isSome_iff_exists.mp (Pattern.hasMatch_iff_search.mp hmatch)
  refine ⟨found, Pattern.leftmost_of_search hfound, ?_⟩
  split_ifs with hreplacement
  · have hkeeps : r.condition.transforms = false := by
      simp [Condition.transforms, Condition.replaces, condition, hreplacement]
    exact Condition.apply_of_not_transforms hkeeps stem
  · have hreplaces : r.condition.replaces = true := by
      simpa [Condition.replaces, condition] using hreplacement
    have huses : r.condition.usesPattern = true := by
      simpa [Condition.usesPattern, condition] using hoperand
    have hfind := find?_eq hread stem
    rw [hfound] at hfind
    exact Condition.apply_of_found hreplaces huses r.kind_eq hfind

end Attaching

end Replacing

/-- A condition with a pattern and a replacement is read as it is written: it holds of the stems in
which the pattern has a match, and puts the replacement in the place of the leftmost one. But an
empty pattern allows no stem, and an empty replacement leaves each as it is. -/
theorem replacing_outcome (serial : Nat) (r : Replacing) {spelling : TokenKind → Text}
    {name text : Text} (htext : Rendered none text (r.tokens spelling name)) {node : Pattern.Node}
    (hread : Pattern.Node.read (Pattern.anchored r.side r.operand) = .ok node) :
    ∃ g set d, (Loading.ofText serial text).outcome = .ok g ∧ g.suffixes = [(set, d)] ∧
      ∀ stem, stem ≠ [] → ∃ holds, d.condition.holds stem = .ok holds ∧
        (holds = true ↔ r.operand ≠ [] ∧ node.HasMatch Pattern.startMode stem) ∧
          (holds = true → ∃ found, node.Leftmost Pattern.startMode stem found ∧
            d.condition.apply stem =
              .ok (if r.replacement = [] then stem
                else found.before ++ r.replacement ++ found.after)) := by
  refine ⟨_, _, r.definition, loaded_of_rendered serial htext fun _ => Replacing.spells, rfl,
    fun stem hstem => ?_⟩
  obtain ⟨holds, hholds, hiff⟩ := Replacing.holds_iff hread hstem
  refine ⟨holds, hholds, hiff, fun hallowed => ?_⟩
  obtain ⟨hoperand, hmatch⟩ := hiff.mp hallowed
  exact Replacing.exists_apply hread hoperand hmatch

namespace Lowering

/-- The replacement has a backslash in it, which stands for nothing but itself. -/
def replacing : Replacing where
  side := .closing
  suffix := ['i']
  description := ['x']
  operand := ['k', '|', 'k', 'k']
  replacement := ['g', '\\', '1']

def text : Text :=
  " SUFFIX s \x7b i : \"x\" WHEN ENDSWITH /k|kk/ REPLACE \"g\\\\1\" \x7d".toList

theorem text_rendered : Rendered none text (replacing.tokens TokenKind.name ['s']) := by
  have hname : IsIdentifier ['s'] := isIdentifier_letter (by decide +kernel) (by decide +kernel)
  have hsuffix : IsIdentifier ['i'] := isIdentifier_letter (by decide +kernel) (by decide +kernel)
  have hsplit : splitDelimited '/' "k|kk/".toList = some ("k|kk".toList, []) := by decide
  have hoperand : Paired '/' "k|kk".toList := splitDelimited_paired hsplit
  have htext : laidOut ((replacing.tokens TokenKind.name ['s']).map (([' '], ·))) [] = text := by
    decide +kernel
  exact htext ▸ Replacing.rendered (r := replacing) hname hsuffix hoperand

end Lowering

/-- Both letters are replaced, since the match that begins with the first of them is the leftmost
one. -/
theorem lowering_replaced :
    Rendered none Lowering.text (Lowering.replacing.tokens TokenKind.name ['s']) ∧
      ∃ g set d, (Loading.ofText 1 Lowering.text).outcome = .ok g ∧ g.suffixes = [(set, d)] ∧
        d.condition.holds "okk".toList = .ok true ∧
          d.condition.apply "okk".toList = .ok "og\\1".toList := by
  obtain ⟨node, hread⟩ : ∃ node,
      Pattern.Node.read (Pattern.anchored .closing ['k', '|', 'k', 'k']) = .ok node :=
    ⟨_, by cbv⟩
  have hfind : Lowering.replacing.condition.find? "okk".toList =
      .ok (some ⟨['o'], ['k', 'k'], []⟩) := by
    cbv
  have hsearch := Except.ok.inj
    ((Replacing.find?_eq (r := Lowering.replacing) hread "okk".toList).symm.trans hfind)
  have hmatch : node.HasMatch Pattern.startMode "okk".toList :=
    Pattern.hasMatch_iff_search.mpr (hsearch ▸ rfl)
  obtain ⟨g, set, d, hg, hsuffixes, hstems⟩ :=
    replacing_outcome 1 Lowering.replacing Lowering.text_rendered hread
  obtain ⟨holds, hholds, hiff, happly⟩ := hstems "okk".toList (by decide)
  obtain rfl : holds = true := hiff.mpr ⟨by decide, hmatch⟩
  obtain ⟨found, hleftmost, hroot⟩ := happly rfl
  obtain rfl := (Pattern.leftmost_of_search hsearch).unique hleftmost
  exact ⟨Lowering.text_rendered, g, set, d, hg, hsuffixes, hholds, hroot⟩

namespace Erasing

/-- A pattern that is to be taken away, and one that is to be found everywhere. -/
def text : Text :=
  ("SUFFIX s \x7b i: \"x\" WHEN ENDSWITH /a/ REPLACE \"\", ".toList ++
    "u: \"y\" WHEN ENDSWITH // REPLACE \"b\" \x7d ".toList ++ "RULE r \x7b @s \x7d".toList)

def ofLast : Replacing where
  side := .closing
  suffix := ['i']
  description := ['x']
  operand := ['a']
  replacement := []

def ofNothing : Replacing where
  side := .closing
  suffix := ['u']
  description := ['y']
  operand := []
  replacement := ['b']

def declarations : List Declaration :=
  [.set ['s'] [] [ofLast.definition, ofNothing.definition], .rule ['r'] [] [[.setRef ['s']]]]

theorem text_loaded : (Loading.ofText 1 text).outcome = .ok (.ofDeclarations 1 declarations) := by
  have hread : declarationsOf? 2 text = some declarations := by cbv
  exact ofText_of_declarationsOf? hread 1

end Erasing

/-- The last letter stays where it is, although it is the leftmost match and nothing is to take its
place; and a suffix does not attach, although its pattern has a match. -/
theorem erasing_kept :
    (Loading.ofText 1 Erasing.text).outcome = .ok (.ofDeclarations 1 Erasing.declarations) ∧
      (∃ node, Pattern.Node.read (Pattern.anchored .closing Erasing.ofLast.operand) = .ok node ∧
        node.Leftmost Pattern.startMode "xxa".toList ⟨['x', 'x'], ['a'], []⟩ ∧
          Erasing.ofLast.condition.holds "xxa".toList = .ok true ∧
            Erasing.ofLast.condition.apply "xxa".toList = .ok "xxa".toList) ∧
        ∃ node, Pattern.Node.read (Pattern.anchored .closing Erasing.ofNothing.operand) = .ok node ∧
          node.HasMatch Pattern.startMode "xxa".toList ∧
            Erasing.ofNothing.condition.holds "xxa".toList = .ok false := by
  obtain ⟨node, hread⟩ : ∃ node, Pattern.Node.read (Pattern.anchored .closing ['a']) = .ok node :=
    ⟨_, by cbv⟩
  obtain ⟨anywhere, hanywhere⟩ : ∃ node,
      Pattern.Node.read (Pattern.anchored .closing []) = .ok node :=
    ⟨_, by cbv⟩
  have hlast : Erasing.ofLast.condition.find? "xxa".toList =
      .ok (some ⟨['x', 'x'], ['a'], []⟩) := by
    cbv
  have hnothing : Erasing.ofNothing.condition.find? "xxa".toList =
      .ok (some ⟨['x', 'x', 'a'], [], []⟩) := by
    cbv
  have hsearch := Except.ok.inj
    ((Replacing.find?_eq (r := Erasing.ofLast) hread "xxa".toList).symm.trans hlast)
  have hfound := Except.ok.inj
    ((Replacing.find?_eq (r := Erasing.ofNothing) hanywhere "xxa".toList).symm.trans hnothing)
  refine ⟨Erasing.text_loaded, ⟨node, hread, Pattern.leftmost_of_search hsearch, by cbv, by cbv⟩,
    anywhere, hanywhere, Pattern.hasMatch_iff_search.mpr (hfound ▸ rfl), by cbv⟩

end Morphotactics
