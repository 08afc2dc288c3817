import Morphotactics.Grammar.Format
import Morphotactics.Proofs.Grammar.Printing

/-! Alternatives shown in the notation of grammars: what is shown is read back, as long as no gloss
has a quote or a backslash in it. -/
namespace Morphotactics

/-- The glosses in an element, under any number of options. -/
def Element.glosses : Element → List (Text × Text)
  | .glossed glosses => glosses.entries
  | .optional child => child.glosses
  | .literal _ | .setRef _ => []

namespace Alternative

def glosses (a : Alternative) : List (Text × Text) :=
  a.flatMap Element.glosses

/-- The front of a rule, up to its first alternative. -/
def ruleFront : Text :=
  "RULE r \x7b ".toList

/-- A rule with no other alternative than this. -/
def ruleText (a : Alternative) : Text :=
  ruleFront ++ Alternative.format a ++ [' ', '\x7d']

end Alternative

/-- The text stands for itself between quotes. -/
def Quotable (text : Text) : Prop :=
  '"' ∉ text ∧ '\\' ∉ text

theorem Quotable.escapes {text : Text} (h : Quotable text) : Escapes text text := by
  induction text with
  | nil => exact .nil
  | cons c rest ih =>
    obtain ⟨hquote, hquotes⟩ := not_or.mp (mt List.mem_cons.mpr h.1)
    obtain ⟨hslash, hslashes⟩ := not_or.mp (mt List.mem_cons.mpr h.2)
    exact .single (Ne.symm hquote) (Ne.symm hslash) (ih ⟨hquotes, hslashes⟩)

section Tokens

/-- Parts with a token between each two. -/
def separated {α : Type} (mark : Unplaced) (written : α → List Unplaced) : List α → List Unplaced
  | [] => []
  | [a] => written a
  | a :: b :: rest => written a ++ mark :: separated mark written (b :: rest)

theorem writtenList_eq_separated {α : Type} (written : α → List Unplaced) (all : List α) :
    writtenList written all = separated (.comma, [',']) written all := by
  fun_induction writtenList written all with
  | case1 | case2 => rfl
  | case3 a b rest ih => rw [separated, ih]

/-- The elements with a plus between each two. -/
def Alternative.summed (a : Alternative) : List Unplaced :=
  separated (.plus, ['+']) Element.written a

/-- The head of a rule without a description. -/
def plainHead : List Unplaced :=
  [writtenWord .rule, (.identifier, ['r'])] ++ [(.leftBrace, ['\x7b'])]

def Alternative.ruleTokens (a : Alternative) : List Unplaced :=
  plainHead ++ (Alternative.summed a ++ [(.rightBrace, ['\x7d'])])

theorem spells_plainHead {ts : Tokens} (h : ts.map Token.unplaced = plainHead) :
    SpellsHeader .rule ts (['r'], []) := by
  obtain ⟨front, _, rfl, hfront, hopening⟩ := List.map_eq_append_iff.mp h
  obtain ⟨_, rfl⟩ := map_unplaced_eq_singleton hopening
  obtain ⟨_, _, rfl, hname⟩ := map_unplaced_eq_cons hfront
  obtain ⟨_, rfl⟩ := map_unplaced_eq_singleton hname
  exact .mk rfl rfl .none rfl

theorem Alternative.spells_summed {a : Alternative} (ha : ∀ e ∈ a, e.WellFormed) {ts : Tokens}
    (h : ts.map Token.unplaced = Alternative.summed a) : SpellsAlternative ts a := by
  unfold summed at h
  induction a generalizing ts with
  | nil =>
    rw [List.map_eq_nil_iff.mp h]
    exact .nil
  | cons e rest ih =>
    obtain ⟨hfirst, hrest⟩ := List.forall_mem_cons.mp ha
    cases rest with
    | nil =>
      rw [← List.append_nil ts]
      exact .cons (hfirst.spells h) .nil
    | cons f rest =>
      obtain ⟨first, more, rfl, hone, hmore⟩ := List.map_eq_append_iff.mp h
      obtain ⟨_, others, rfl, hothers⟩ := map_unplaced_eq_cons hmore
      exact .plus (hfirst.spells hone) rfl (ih hrest hothers)

theorem Alternative.spells_ruleTokens {a : Alternative} (ha : ∀ e ∈ a, e.WellFormed) {ts : Tokens}
    (h : ts.map Token.unplaced = Alternative.ruleTokens a) :
    SpellsDeclarations ts [.rule ['r'] [] [a]] := by
  obtain ⟨head, body, rfl, hhead, hbody⟩ := List.map_eq_append_iff.mp h
  obtain ⟨elements, _, rfl, hsummed, hclosing⟩ := List.map_eq_append_iff.mp hbody
  obtain ⟨place, rfl⟩ := map_unplaced_eq_singleton hclosing
  have hone : withoutEmptyLast [a] = [a] := if_neg fun h => absurd h.1 (Nat.lt_irrefl 1)
  have hrule : SpellsDeclaration (head ++ elements ++ [⟨.rightBrace, ['\x7d'], place⟩]) _ :=
    .rule (spells_plainHead hhead) (.single (Alternative.spells_summed ha hsummed)) rfl
  rw [hone, List.append_assoc] at hrule
  rw [← List.append_nil (head ++ _)]
  exact .cons hrule .nil

end Tokens

section Texts

/-- The text is read as these tokens, after any token but those that take a set. -/
def Shows (text : Text) (all : List Unplaced) : Prop :=
  ∀ previous : Option TokenKind, previous.any TokenKind.takesSet = false →
    Rendered previous text all

/-- No word or number goes on with the text. -/
def Stops (text : Text) : Prop :=
  ∀ kind, Maximal kind text

variable {left : Text} {rest : List Unplaced}

theorem stops_cons {c : Char} (h : c ∈ [' ', ',', ':', ']', '\x7d']) (left : Text) :
    Stops (c :: left) := by
  have hmarks : [' ', ',', ':', ']', '\x7d'].all (!isIdentifierChar ·) = true := by decide +kernel
  have hc := List.all_eq_true.mp hmarks c h
  exact fun kind => maximal_cons (Bool.not_eq_true' _ ▸ hc) kind left

theorem Shows.token {kind : TokenKind} {source value : Text} (written : Writes kind source value)
    (no_set : kind ≠ .literalSet) (takes : kind.takesSet = false) (maximal : Maximal kind left)
    (tail : Shows left rest) : Shows (source ++ left) ((kind, value) :: rest) := by
  intro previous hprevious
  have hfits : Fits previous kind := ⟨fun hset => absurd hset no_set, fun _ => hprevious⟩
  have hrendered := Rendered.cons .nil written maximal hfits (tail (some kind) takes)
  rwa [List.nil_append] at hrendered

theorem Shows.identifier {word : Text} (h : IsIdentifier word) (stops : Stops left)
    (tail : Shows left rest) : Shows (word ++ left) ((.identifier, word) :: rest) :=
  .token (.identifier h) nofun rfl (stops _) tail

theorem Shows.mark (c : Char) {kind : TokenKind} (is_mark : TokenKind.ofChar? c = some kind)
    (tail : Shows left rest) : Shows (c :: left) ((kind, [c]) :: rest) := by
  obtain ⟨hword, hnumber, -, -, hset⟩ := TokenKind.of_ofChar? is_mark
  have hmaximal : Maximal kind left := fun _ _ =>
    ⟨fun h => absurd h (Bool.eq_false_iff.mp hword), fun h => absurd h hnumber⟩
  refine .token (.mark is_mark) hset ?_ hmaximal tail
  revert hword
  cases kind <;> decide

theorem Shows.quoted {value : Text} (h : Quotable value) (tail : Shows left rest) :
    Shows ('"' :: value ++ '"' :: left) ((.string, value) :: rest) := by
  have hword : ¬ TokenKind.isWord .string := by decide
  have hmaximal : Maximal .string left := fun _ _ => ⟨fun h => absurd h hword, nofun⟩
  have hshows := Shows.token (.string h.escapes) nofun rfl hmaximal tail
  rwa [List.append_assoc] at hshows

theorem Shows.blank {c : Char} (is_blank : isBlank c) (tail : Shows left rest) :
    Shows (c :: left) rest := by
  intro previous hprevious
  cases tail previous hprevious with
  | nil space => exact .nil (.blank is_blank space)
  | cons space written maximal fits more =>
    exact .cons (.blank is_blank space) written maximal fits more

theorem Shows.space (tail : Shows left rest) : Shows (' ' :: left) rest :=
  .blank (by cbv) tail

theorem shows_separated {α : Type} {format : α → Text} {written : α → List Unplaced} {gap : Text}
    {mark : Unplaced}
    (hgap : ∀ left rest, Shows left rest → Stops (gap ++ left) ∧ Shows (gap ++ left) (mark :: rest))
    {all : List α}
    (hall : ∀ a ∈ all, ∀ left rest, Stops left → Shows left rest →
      Shows (format a ++ left) (written a ++ rest))
    (stops : Stops left) (tail : Shows left rest) :
    Shows (List.intercalate gap (all.map format) ++ left) (separated mark written all ++ rest) := by
  induction all with
  | nil => exact tail
  | cons a others ih =>
    obtain ⟨hfirst, hothers⟩ := List.forall_mem_cons.mp hall
    cases others with
    | nil =>
      rw [List.map_singleton, List.intercalate_singleton]
      exact hfirst left rest stops tail
    | cons b others =>
      obtain ⟨hstops, hshows⟩ := hgap _ _ (ih hothers)
      have ha := hfirst _ _ hstops hshows
      rwa [List.map_cons, List.map_cons, List.intercalate_cons_cons, List.append_assoc,
        List.append_assoc, separated, List.append_assoc]

theorem shows_glosses {glosses : List (Text × Text)} (hkeys : ∀ e ∈ glosses, IsIdentifier e.1)
    (hquotable : ∀ e ∈ glosses, Quotable e.2) (stops : Stops left) (tail : Shows left rest) :
    Shows (List.intercalate ", ".toList
        (glosses.map fun e => e.1 ++ ':' :: '"' :: e.2 ++ ['"']) ++ left)
      (writtenList writtenGloss glosses ++ rest) := by
  rw [writtenList_eq_separated]
  refine shows_separated (fun left rest tail => ?_) (fun e he left rest _ tail => ?_) stops tail
  · exact ⟨stops_cons (by decide) _, .mark ',' rfl tail.space⟩
  · have hgloss := Shows.identifier (hkeys e he) (stops_cons (by decide) _)
      (.mark ':' rfl (.quoted (hquotable e he) tail))
    simpa [writtenGloss] using hgloss

theorem Element.WellFormed.shows {e : Element} (h : e.WellFormed)
    (hquotable : ∀ gloss ∈ e.glosses, Quotable gloss.2) (stops : Stops left)
    (tail : Shows left rest) : Shows (e.format ++ left) (e.written ++ rest) := by
  induction h generalizing left rest with
  | literal text_word => exact .identifier text_word stops tail
  | setRef name_word => exact .mark '@' rfl (.identifier name_word stops tail)
  | optional _ ih =>
    have hchild := ih hquotable (stops_cons (by decide) _) (.mark ']' rfl tail)
    simpa [format, written] using Shows.mark '[' rfl hchild
  | glossed _ keys =>
    have hglosses := shows_glosses keys hquotable (stops_cons (by decide) _) (.mark '\x7d' rfl tail)
    simpa [format, written] using Shows.mark '\x7b' rfl hglosses

namespace Alternative

theorem shows {a : Alternative} (ha : ∀ e ∈ a, e.WellFormed)
    (hquotable : ∀ gloss ∈ Alternative.glosses a, Quotable gloss.2) (stops : Stops left)
    (tail : Shows left rest) :
    Shows (Alternative.format a ++ left) (Alternative.summed a ++ rest) := by
  refine shows_separated (fun left rest tail => ?_) (fun e he left rest stops tail => ?_) stops tail
  · exact ⟨stops_cons (by decide) _, .space (.mark '+' rfl tail.space)⟩
  · have hglosses : ∀ gloss ∈ e.glosses, Quotable gloss.2 :=
      fun gloss hg => hquotable gloss (List.mem_flatMap_of_mem he hg)
    exact (ha e he).shows hglosses stops tail

theorem shows_ruleText {a : Alternative} (ha : ∀ e ∈ a, e.WellFormed)
    (hquotable : ∀ gloss ∈ Alternative.glosses a, Quotable gloss.2) :
    Shows (Alternative.ruleText a) (Alternative.ruleTokens a) := by
  have hname : IsIdentifier ['r'] := isIdentifier_letter (by cbv) (by cbv)
  have hkeyword : Writes .rule TokenKind.rule.name TokenKind.rule.name :=
    writes_keyword (by simp [TokenKind.keywords])
  have hend : Shows [] [] := fun _ _ => .nil .nil
  have hbody : Shows (Alternative.format a ++ [' ', '\x7d']) _ :=
    Alternative.shows ha hquotable (stops_cons (by decide) _) (.space (.mark '\x7d' rfl hend))
  have hopening := Shows.space (Shows.mark '\x7b' rfl hbody.space)
  have hheader := Shows.space (Shows.identifier hname (stops_cons (by decide) _) hopening)
  have hrule := Shows.token hkeyword (by decide) rfl (stops_cons (by decide) _ _) hheader
  have hfront : ruleFront = TokenKind.rule.name ++ [' ', 'r', ' ', '\x7b', ' '] := rfl
  unfold ruleText ruleTokens plainHead writtenWord
  rw [hfront]
  simp only [List.append_assoc, List.cons_append, List.nil_append] at hrule ⊢
  exact hrule

end Alternative

end Texts

/-- Where no gloss has a quote or a backslash in it, an alternative is read back. -/
theorem Alternative.loaded_ruleText (serial : Nat) {a : Alternative} (ha : ∀ e ∈ a, e.WellFormed)
    (hquotable : ∀ gloss ∈ Alternative.glosses a, Quotable gloss.2) :
    (Loading.ofText serial (Alternative.ruleText a)).outcome =
      .ok (.ofDeclarations serial [.rule ['r'] [] [a]]) :=
  loaded_of_rendered serial (Alternative.shows_ruleText ha hquotable none rfl)
    fun _ => Alternative.spells_ruleTokens ha

end Morphotactics
