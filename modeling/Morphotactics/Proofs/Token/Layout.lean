import Morphotactics.Proofs.Text.Capital
import Morphotactics.Proofs.Token.Rendering

/-! Tokens in their source form with any layout around them: just these tokens are read, and nothing
of the layout. -/
namespace Morphotactics

/-- Blanks, and comments with the line breaks that end them. -/
inductive Padding : Text → Prop
  | nil : Padding []
  | blank {c : Char} {rest : Text} (is_blank : isBlank c) (tail : Padding rest) : Padding (c :: rest)
  | comment {body rest : Text} (one_line : '\n' ∉ body) (tail : Padding rest) :
      Padding ('#' :: body ++ '\n' :: rest)

/-- The text with a backslash in front of each quote and of each backslash. -/
def escape : Text → Text
  | [] => []
  | c :: rest => if c = '"' ∨ c = '\\' then '\\' :: c :: escape rest else c :: escape rest

/-- How a token is written: as its text, between the marks of its kind if it has such. -/
def sourceForm : Unplaced → Text
  | (.string, value) => '"' :: escape value ++ ['"']
  | (.pattern, value) => '/' :: value ++ ['/']
  | (.literalSet, value) => '[' :: value ++ [']']
  | (_, value) => value

/-- The text is one that a token of the kind can have. A keyword may be spelled in any way that has
its upper case, and a string may have any text. -/
inductive Spellable : Unplaced → Prop
  | identifier {word : Text} (identifier : IsIdentifier word) : Spellable (.identifier, word)
  | keyword {word : Text} {kind : TokenKind} (is_keyword : kind ∈ TokenKind.keywords)
      (upper : upperText word = kind.name) : Spellable (kind, word)
  | number {digits : Text} (nonempty : digits ≠ []) (decimal : ∀ c ∈ digits, isDecimal c) :
      Spellable (.number, digits)
  | mark {c : Char} {kind : TokenKind} (is_mark : TokenKind.ofChar? c = some kind) :
      Spellable (kind, [c])
  | string (value : Text) : Spellable (.string, value)
  | pattern {value : Text} (paired : Paired '/' value) : Spellable (.pattern, value)
  | literalSet {value : Text} (open_set : ']' ∉ value) : Spellable (.literalSet, value)

/-- Each kind fits behind the one in front of it. -/
def Fitting : (previous : Option TokenKind) → List TokenKind → Prop
  | _, [] => True
  | previous, kind :: rest => Fits previous kind ∧ Fitting (some kind) rest

/-- Tokens in their source form, with a gap in front of each and one behind the last. -/
def laidOut : List (Text × Unplaced) → (last : Text) → Text
  | [], last => last
  | (gap, t) :: rest, last => gap ++ (sourceForm t ++ laidOut rest last)

theorem Padding.gap {gap : Text} (h : Padding gap) (left : Text) : Gap left gap := by
  induction h with
  | nil => exact .nil
  | blank is_blank _ ih => exact .blank is_blank ih
  | comment one_line _ ih => exact .comment one_line ih

theorem escape_escapes (value : Text) : Escapes (escape value) value := by
  induction value with
  | nil => exact .nil
  | cons c rest ih =>
    rw [escape]
    split_ifs with hmark
    · exact .pair ih
    · obtain ⟨hquote, hslash⟩ := not_or.mp hmark
      exact .single hquote hslash ih

/-- Only letters have the upper case of a keyword. -/
theorem isWord_of_upperText {word : Text} {kind : TokenKind} (hkind : kind ∈ TokenKind.keywords)
    (hupper : upperText word = kind.name) : IsWord word := by
  have hcapitals : kind.name ≠ [] ∧ kind.name.all Char.isUpper = true := by
    fin_cases hkind <;> exact ⟨by simp [TokenKind.name, TokenKind.spelling], by cbv⟩
  obtain ⟨hne, hcapital⟩ := hcapitals
  have hletters : ∀ c ∈ word, isAlpha c = true :=
    isAlpha_of_upperText (hupper ▸ List.all_eq_true.mp hcapital)
  cases word with
  | nil => exact absurd hupper.symm hne
  | cons c rest =>
    obtain ⟨hfirst, hrest⟩ := List.forall_mem_cons.mp hletters
    exact ⟨by simp [startsIdentifier, hfirst], fun d hd => isIdentifierChar_of_isAlpha (hrest d hd)⟩

theorem sourceForm_of_unmarked {kind : TokenKind} {value : Text} (hstring : kind ≠ .string)
    (hpattern : kind ≠ .pattern) (hset : kind ≠ .literalSet) : sourceForm (kind, value) = value := by
  cases kind <;> simp_all [sourceForm]

theorem Spellable.writes {t : Unplaced} (h : Spellable t) : Writes t.1 (sourceForm t) t.2 := by
  cases h with
  | identifier identifier => exact .identifier identifier
  | @keyword word kind is_keyword upper =>
    have hsource : sourceForm (kind, word) = word := by
      apply sourceForm_of_unmarked <;> rintro rfl <;> exact absurd is_keyword (by decide)
    rw [hsource]
    exact .keyword (isWord_of_upperText is_keyword upper) is_keyword upper
  | number nonempty decimal => exact .number nonempty decimal
  | mark is_mark =>
    obtain ⟨-, -, hstring, hpattern, hset⟩ := TokenKind.of_ofChar? is_mark
    rw [sourceForm_of_unmarked hstring hpattern hset]
    exact .mark is_mark
  | string value => exact .string (escape_escapes value)
  | pattern paired => exact .pattern paired
  | literalSet open_set => exact .literalSet open_set

theorem Padding.maximal {gap : Text} (h : Padding gap) (hne : gap ≠ []) (kind : TokenKind)
    (rest : Text) : Maximal kind (gap ++ rest) :=
  (h.gap []).maximal hne kind rest

section Reading

variable {parts : List (Text × Unplaced)} {last : Text}

/-- No token goes on behind its gap. -/
theorem maximal_laidOut (kind : TokenKind) (hpadding : ∀ part ∈ parts, Padding part.1)
    (hapart : ∀ part ∈ parts, part.1 ≠ []) (hlast : Padding last) :
    Maximal kind (laidOut parts last) := by
  cases parts with
  | nil =>
    by_cases hempty : last = []
    · simp [laidOut, hempty, Maximal]
    · have hmaximal := hlast.maximal hempty kind []
      rwa [List.append_nil] at hmaximal
  | cons part rest =>
    exact (hpadding part List.mem_cons_self).maximal (hapart part List.mem_cons_self) kind _

theorem rendered_laidOut {previous : Option TokenKind}
    (hspellable : ∀ part ∈ parts, Spellable part.2) (hpadding : ∀ part ∈ parts, Padding part.1)
    (hapart : ∀ part ∈ parts.tail, part.1 ≠ []) (hlast : Padding last)
    (hfits : Fitting previous (parts.map (·.2.1))) :
    Rendered previous (laidOut parts last) (parts.map Prod.snd) := by
  induction parts generalizing previous with
  | nil => exact .nil (hlast.gap [])
  | cons part rest ih =>
    obtain ⟨hspelled, hspellable⟩ := List.forall_mem_cons.mp hspellable
    obtain ⟨hgap, hpadding⟩ := List.forall_mem_cons.mp hpadding
    obtain ⟨hfit, hfits⟩ := hfits
    have htail := ih hspellable hpadding (fun p hp => hapart p (List.mem_of_mem_tail hp)) hfits
    have hmaximal : Maximal part.2.1 (laidOut rest last) :=
      maximal_laidOut part.2.1 hpadding hapart hlast
    exact .cons (hgap.gap _) hspelled.writes hmaximal hfit htail

/-- Tokens in their source form are read back from any text in which layout keeps them apart, if
sets of characters stand behind the kinds that take one, and brackets that open nothing else do
not. -/
theorem tokenize_laidOut (hspellable : ∀ part ∈ parts, Spellable part.2)
    (hpadding : ∀ part ∈ parts, Padding part.1) (hapart : ∀ part ∈ parts.tail, part.1 ≠ [])
    (hlast : Padding last) (hfits : Fitting none (parts.map (·.2.1))) :
    (tokenize (laidOut parts last)).map (List.map Token.unplaced) =
      .ok (parts.map Prod.snd ++ [(.eof, [])]) := by
  have hrendered := rendered_laidOut hspellable hpadding hapart hlast hfits
  obtain ⟨ts, place, htokenizes, hts⟩ := hrendered.tokenizes .start
  rw [tokenize_ok_iff.mpr htokenizes, ← hts]
  simp [Except.map, Token.unplaced]

end Reading

namespace Motley

/-- A keyword with a ligature, a set of characters that has marks in it, a string of a quote and a
backslash, a bracket, a hyphen in front of a letter, a slash that does not close, and digits of two
scripts. -/
def parts : List (Text × Unplaced) :=
  [([], .suffix, ['s', 'u', 'ﬃ', 'x']), (['#', ']', '\n'], .endsWith, "EndsWith".toList),
    ([' '], .literalSet, ['a', '[', '"']), (['\t'], .string, ['"', '\\']),
    ([' ', '#', '"', '\n'], .leftBracket, ['[']), (['\n'], .identifier, ['-', 'ю', '_', '1']),
    ([' '], .pattern, ['a', '\\', '/']), (['#', '\n', '#', '\n'], .number, ['٣', '4'])]

def text : Text :=
  "suﬃx#]\nEndsWith [a[\"]\t\"\\\"\\\\\" #\"\n[\n-ю_1 /a\\//#\n#\n٣4#\n".toList

theorem text_laidOut : laidOut parts ['#', '\n'] = text := by
  cbv

theorem parts_spellable : ∀ part ∈ parts, Spellable part.2 := by
  have hsuffix : upperText ['s', 'u', 'ﬃ', 'x'] = TokenKind.suffix.name := by decide +kernel
  have hendsWith : upperText "EndsWith".toList = TokenKind.endsWith.name := by decide +kernel
  have hstarts : startsIdentifier ['-', 'ю', '_', '1'] = true := by decide +kernel
  have hchars : ['ю', '_', '1'].all isIdentifierChar = true := by decide +kernel
  have hkind : wordKind ['-', 'ю', '_', '1'] = .identifier := by decide +kernel
  have hidentifier : IsIdentifier ['-', 'ю', '_', '1'] :=
    IsWord.isIdentifier ⟨hstarts, List.all_eq_true.mp hchars⟩ hkind
  have hpattern : Paired '/' ['a', '\\', '/'] := .single (by decide) (by decide) (.pair .nil)
  have hdigits : ['٣', '4'].all isDecimal = true := by decide +kernel
  simp only [parts, List.forall_mem_cons]
  exact ⟨.keyword (by simp [TokenKind.keywords]) hsuffix,
    .keyword (by simp [TokenKind.keywords]) hendsWith, .literalSet (by decide), .string _,
    .mark rfl, .identifier hidentifier, .pattern hpattern,
    .number (List.cons_ne_nil _ _) (List.all_eq_true.mp hdigits), List.forall_mem_nil _⟩

theorem parts_padding : ∀ part ∈ parts, Padding part.1 := by
  have hblank : ∀ c, isBlank c = true → Padding [c] := fun c hc => .blank hc .nil
  have hcomment : ∀ body rest, '\n' ∉ body → Padding rest → Padding ('#' :: body ++ '\n' :: rest) :=
    fun body rest => .comment
  simp only [parts, List.forall_mem_cons]
  exact ⟨.nil, hcomment [']'] [] (by decide) .nil, hblank _ (by cbv), hblank _ (by cbv),
    .blank (by cbv) (hcomment ['"'] [] (by decide) .nil), hblank _ (by cbv), hblank _ (by cbv),
    hcomment [] _ (by decide) (hcomment [] [] (by decide) .nil), List.forall_mem_nil _⟩

theorem parts_fitting : Fitting none (parts.map (·.2.1)) := by
  simp [parts, Fitting, Fits, TokenKind.takesSet]

end Motley

/-- Every token of the text is read as it has been written. -/
theorem motley_tokenized :
    (tokenize Motley.text).map (List.map Token.unplaced) =
      .ok (Motley.parts.map Prod.snd ++ [(.eof, [])]) := by
  have hlast : Padding ['#', '\n'] := .comment List.not_mem_nil .nil
  rw [← Motley.text_laidOut]
  exact tokenize_laidOut Motley.parts_spellable Motley.parts_padding (by decide) hlast
    Motley.parts_fitting

end Morphotactics
