import Mathlib
import Morphotactics.Proofs.Text.Apart
import Morphotactics.Proofs.Token.Scanning

/-! How tokens are written: which source stands for a token of a kind and a text. A token is scanned
exactly if it is written at the front of a text and does not go on there. -/
namespace Morphotactics

/-- Pairs of a backslash and any character, and single characters that are neither a backslash nor
the closing mark. -/
inductive Paired (close : Char) : Text → Prop
  | nil : Paired close []
  | pair {c : Char} {rest : Text} (tail : Paired close rest) : Paired close ('\\' :: c :: rest)
  | single {c : Char} {rest : Text} (not_close : c ≠ close) (not_slash : c ≠ '\\')
      (tail : Paired close rest) : Paired close (c :: rest)

/-- A text between quotes stands for another: each backslash is dropped, and the character behind it
is kept whatever it is. -/
inductive Escapes : (inner value : Text) → Prop
  | nil : Escapes [] []
  | pair {c : Char} {rest value : Text} (tail : Escapes rest value) :
      Escapes ('\\' :: c :: rest) (c :: value)
  | single {c : Char} {rest value : Text} (not_close : c ≠ '"') (not_slash : c ≠ '\\')
      (tail : Escapes rest value) : Escapes (c :: rest) (c :: value)

/-- A letter or an underscore, or a hyphen before a letter, and then characters of identifiers. -/
structure IsWord (word : Text) : Prop where
  starts : startsIdentifier word
  chars : ∀ c ∈ word.tail, isIdentifierChar c

/-- A word that is not a keyword in any spelling. -/
structure IsIdentifier (word : Text) : Prop extends IsWord word where
  no_keyword : ∀ keyword ∈ TokenKind.keywords, upperText word ≠ keyword.name

/-- A token of this kind and with this value has this source. -/
inductive Writes : TokenKind → (source value : Text) → Prop
  | identifier {word : Text} (identifier : IsIdentifier word) : Writes .identifier word word
  | keyword {word : Text} {kind : TokenKind} (shape : IsWord word)
      (is_keyword : kind ∈ TokenKind.keywords) (upper : upperText word = kind.name) :
      Writes kind word word
  | number {digits : Text} (nonempty : digits ≠ []) (decimal : ∀ c ∈ digits, isDecimal c) :
      Writes .number digits digits
  | mark {c : Char} {kind : TokenKind} (is_mark : TokenKind.ofChar? c = some kind) :
      Writes kind [c] [c]
  | string {inner value : Text} (escapes : Escapes inner value) :
      Writes .string ('"' :: inner ++ ['"']) value
  | pattern {inner : Text} (paired : Paired '/' inner) :
      Writes .pattern ('/' :: inner ++ ['/']) inner
  | literalSet {inner : Text} (open_set : ']' ∉ inner) :
      Writes .literalSet ('[' :: inner ++ [']']) inner

/-- A kind of words: an identifier or a keyword. -/
def TokenKind.isWord (kind : TokenKind) : Bool :=
  kind = .identifier || keywords.elem kind

/-- A token of this kind does not go on with the text: a word is not followed by a character of
identifiers, and a number by no digit. -/
def Maximal (kind : TokenKind) (left : Text) : Prop :=
  ∀ c ∈ left.head?, (kind.isWord → isIdentifierChar c = false) ∧
    (kind = .number → isDecimal c = false)

theorem maximal_cons {c : Char} (h : isIdentifierChar c = false) (kind : TokenKind) (left : Text) :
    Maximal kind (c :: left) := by
  intro d hd
  obtain rfl := Option.some.inj hd
  refine ⟨fun _ => h, fun _ => Bool.eq_false_iff.mpr fun hdigit => ?_⟩
  simp [isIdentifierChar, isAlphanumeric, hdigit] at h

/-- A set of characters stands behind the kinds that take one, and there a bracket opens nothing
else. -/
def Fits (previous : Option TokenKind) (kind : TokenKind) : Prop :=
  (kind = .literalSet → previous.any TokenKind.takesSet = true) ∧
    (kind = .leftBracket → previous.any TokenKind.takesSet = false)

section Closing

variable {text inner left : Text}

theorem splitDelimited_paired {close : Char} (h : splitDelimited close text = some (inner, left)) :
    Paired close inner := by
  fun_induction splitDelimited close text generalizing inner with
  | case1 => cases h
  | case2 => cases h; exact .nil
  | case3 => cases h
  | case4 => cases h; exact .nil
  | case5 d rest _ ih =>
    obtain ⟨⟨i, l⟩, hr, he⟩ := Option.map_eq_some_iff.mp h
    cases he
    exact .pair (ih hr)
  | case6 c d rest hclose hslash ih =>
    obtain ⟨⟨i, l⟩, hr, he⟩ := Option.map_eq_some_iff.mp h
    cases he
    exact .single hclose hslash (ih hr)

theorem splitDelimited_of_paired {close : Char} (hclose : close ≠ '\\') (h : Paired close inner)
    (left : Text) : splitDelimited close (inner ++ close :: left) = some (inner, left) := by
  induction h with
  | nil => cases left <;> simp [splitDelimited]
  | pair _ ih => simp [splitDelimited, hclose.symm, ih]
  | @single c rest not_close not_slash _ ih =>
    cases rest with
    | nil =>
      rw [List.nil_append] at ih
      simp [splitDelimited, not_close, not_slash, ih]
    | cons d rest =>
      rw [List.cons_append] at ih
      simp [splitDelimited, not_close, not_slash, ih]

theorem splitSet_eq_some_iff :
    splitSet text = some (inner, left) ↔ ']' ∉ inner ∧ text = inner ++ ']' :: left := by
  constructor
  · refine fun h => ⟨?_, splitSet_text h⟩
    fun_induction splitSet text generalizing inner with
    | case1 => cases h
    | case2 => cases h; exact List.not_mem_nil
    | case3 c rest hclose ih =>
      obtain ⟨⟨i, l⟩, hr, he⟩ := Option.map_eq_some_iff.mp h
      cases he
      exact fun hmem => (List.mem_cons.mp hmem).elim (fun hc => hclose hc.symm) (ih hr)
  · rintro ⟨hopen, rfl⟩
    induction inner with
    | nil => simp [splitSet]
    | cons c rest ih =>
      obtain ⟨hc, hrest⟩ : ¬ ']' = c ∧ ']' ∉ rest := by simpa using hopen
      simp [splitSet, Ne.symm hc, ih hrest]

theorem escapes_iff {value : Text} :
    Escapes inner value ↔ Paired '"' inner ∧ value = unescape inner := by
  constructor
  · intro h
    induction h with
    | nil => exact ⟨.nil, rfl⟩
    | pair _ ih =>
      obtain ⟨hpaired, rfl⟩ := ih
      exact ⟨.pair hpaired, by simp [unescape]⟩
    | @single c rest value not_close not_slash _ ih =>
      obtain ⟨hpaired, rfl⟩ := ih
      refine ⟨.single not_close not_slash hpaired, ?_⟩
      cases rest <;> simp [unescape, not_slash]
  · rintro ⟨h, rfl⟩
    induction h with
    | nil => exact .nil
    | pair _ ih => simpa [unescape] using Escapes.pair ih
    | @single c rest not_close not_slash _ ih =>
      have hfirst : unescape (c :: rest) = c :: unescape rest := by
        cases rest <;> simp [unescape, not_slash]
      rw [hfirst]
      exact .single not_close not_slash ih

end Closing

section Words

variable {word : Text}

theorem wordKind_eq_iff {kind : TokenKind} : wordKind word = kind ↔
    (kind = .identifier ∧ ∀ keyword ∈ TokenKind.keywords, upperText word ≠ keyword.name) ∨
      kind ∈ TokenKind.keywords ∧ upperText word = kind.name := by
  have hnames : ∀ a ∈ TokenKind.keywords, ∀ b ∈ TokenKind.keywords, a.name = b.name → a = b := by
    decide
  unfold wordKind
  cases hfind : TokenKind.keywords.find? (·.name = upperText word) with
  | none =>
    have hnone : ∀ keyword ∈ TokenKind.keywords, upperText word ≠ keyword.name :=
      fun keyword hmem hname => List.find?_eq_none.mp hfind keyword hmem (by simp [hname])
    rw [Option.getD_none]
    constructor
    · rintro rfl
      exact .inl ⟨rfl, hnone⟩
    · rintro (⟨rfl, -⟩ | ⟨hmem, hname⟩)
      · rfl
      · exact absurd hname (hnone kind hmem)
  | some keyword =>
    have hmem := List.mem_of_find?_eq_some hfind
    have hname : keyword.name = upperText word := by simpa using List.find?_some hfind
    rw [Option.getD_some]
    constructor
    · rintro rfl
      exact .inr ⟨hmem, hname.symm⟩
    · rintro (⟨-, hnone⟩ | ⟨hkind, hupper⟩)
      · exact absurd hname.symm (hnone keyword hmem)
      · exact hnames keyword hmem kind hkind (hname.trans hupper)

theorem wordKind_isWord (word : Text) : (wordKind word).isWord := by
  obtain ⟨hkind, -⟩ | ⟨hmem, -⟩ := wordKind_eq_iff.mp (rfl : wordKind word = _)
  · simp [TokenKind.isWord, hkind]
  · simp [TokenKind.isWord, hmem]

theorem IsWord.writes (h : IsWord word) : Writes (wordKind word) word word := by
  obtain ⟨hkind, hnone⟩ | ⟨hmem, hname⟩ := wordKind_eq_iff.mp (rfl : wordKind word = _)
  · rw [hkind]
    exact .identifier ⟨h, hnone⟩
  · exact .keyword h hmem hname

/-- A character with which a word begins. -/
theorem first_of_startsIdentifier {c : Char} {rest : Text} (h : startsIdentifier (c :: rest)) :
    isAlpha c = true ∨ c = '_' ∨ c = '-' := by
  simp only [startsIdentifier, Bool.or_eq_true, decide_eq_true_eq, Bool.and_eq_true] at h
  exact or_assoc.mp (h.imp_right And.left)

theorem isIdentifierChar_of_isAlpha {c : Char} (h : isAlpha c = true) :
    isIdentifierChar c = true := by
  simp [isIdentifierChar, isAlphanumeric, h]

theorem IsWord.not_mem (h : IsWord word) {c : Char} (hchar : isIdentifierChar c = false)
    (hhyphen : c ≠ '-') : c ∉ word := by
  cases word with
  | nil => exact List.not_mem_nil
  | cons d rest =>
    have hfirst : c ≠ d := by
      rintro rfl
      obtain hletter | rfl | rfl := first_of_startsIdentifier h.starts
      · rw [isIdentifierChar_of_isAlpha hletter] at hchar
        cases hchar
      · simp [isIdentifierChar] at hchar
      · exact hhyphen rfl
    have hrest : c ∉ rest := fun hmem => by
      rw [h.chars c hmem] at hchar
      cases hchar
    exact not_or.mpr ⟨hfirst, hrest⟩ ∘ List.mem_cons.mp

theorem startsIdentifier_takeWhile {c : Char} {rest : Text} (h : startsIdentifier (c :: rest)) :
    startsIdentifier (c :: rest.takeWhile isIdentifierChar) := by
  cases rest with
  | nil => exact h
  | cons d rest =>
    cases hd : isIdentifierChar d with
    | true => simpa [startsIdentifier, hd] using h
    | false =>
      have hletter : isAlpha d = false :=
        Bool.eq_false_iff.mpr fun ha => Bool.eq_false_iff.mp hd (isIdentifierChar_of_isAlpha ha)
      simpa [startsIdentifier, hd, hletter] using h

/-- The marks that stand for themselves or open a token. -/
def marks : List Char :=
  ['/', '"', '\x7b', '\x7d', '[', ']', '(', ')', ',', ':', '+', '@']

/-- The members of a class that has no mark in it are plain. -/
theorem plain_of_class {p : Char → Bool} (h : marks.any p = false) {c : Char} (hc : p c = true) :
    Plain c := by
  have hne : ∀ mark ∈ marks, c ≠ mark := by
    rintro mark hmark rfl
    exact List.any_eq_false.mp h c hmark hc
  refine ⟨hne _ (by simp [marks]), hne _ (by simp [marks]), ?_⟩
  unfold TokenKind.ofChar?
  split
  case h_11 => rfl
  all_goals exact absurd rfl (hne _ (by simp [marks]))

theorem plain_of_isDecimal {c : Char} (h : isDecimal c = true) : Plain c := by
  have hmarks : marks.any isDecimal = false := by cbv
  exact plain_of_class hmarks h

theorem plain_of_isAlpha {c : Char} (h : isAlpha c = true) : Plain c := by
  have hmarks : marks.any isAlpha = false := by cbv
  exact plain_of_class hmarks h

theorem plain_of_startsIdentifier {c : Char} {rest : Text} (h : startsIdentifier (c :: rest)) :
    Plain c ∧ isDecimal c = false := by
  obtain hletter | rfl | rfl := first_of_startsIdentifier h
  · exact ⟨plain_of_isAlpha hletter, isDecimal_eq_false_of_isAlpha hletter⟩
  · exact ⟨⟨by decide, by decide, rfl⟩, by cbv⟩
  · exact ⟨⟨by decide, by decide, rfl⟩, by cbv⟩

theorem IsIdentifier.wordKind_eq (h : IsIdentifier word) : wordKind word = .identifier :=
  wordKind_eq_iff.mpr (.inl ⟨rfl, h.no_keyword⟩)

theorem IsWord.isIdentifier (h : IsWord word) (hkind : wordKind word = .identifier) :
    IsIdentifier word := by
  obtain ⟨-, hnone⟩ | ⟨hmem, -⟩ := wordKind_eq_iff.mp hkind
  · exact ⟨h, hnone⟩
  · exact absurd hmem (by decide)

/-- No keyword has a single letter. -/
theorem isIdentifier_letter {c : Char} (h : isAlpha c) (hupper : (upperText [c]).length = 1) :
    IsIdentifier [c] := by
  have hlong : ∀ keyword ∈ TokenKind.keywords, keyword.name.length ≠ 1 := by decide
  refine ⟨⟨by simp [startsIdentifier, h], nofun⟩, fun keyword hmem hname => ?_⟩
  exact hlong keyword hmem (hname ▸ hupper)

end Words

namespace TokenKind

theorem of_ofChar? {c : Char} {kind : TokenKind} (h : ofChar? c = some kind) :
    kind.isWord = false ∧ kind ≠ .number ∧ kind ≠ .string ∧ kind ≠ .pattern ∧
      kind ≠ .literalSet := by
  unfold ofChar? at h
  split at h <;> cases h <;> decide

end TokenKind

variable {previous : Option TokenKind} {c : Char} {kind : TokenKind} {rest source left : Text}

theorem head?_dropWhile_eq_false {p : Char → Bool} {text : Text} {c : Char}
    (h : c ∈ (text.dropWhile p).head?) : p c = false := by
  have hfirst := List.head?_dropWhile_not p text
  rw [Option.mem_def] at h
  rw [h] at hfirst
  exact hfirst

theorem inside_delimited (first last : Char) (inner : Text) :
    inside (first :: inner ++ [last]) = inner := by
  simp [inside]

theorem Writes.value_eq {value : Text} (h : Writes kind source value) (gap : Text) :
    Lexeme.value ⟨gap, kind, source⟩ = value := by
  cases h with
  | identifier | number => rfl
  | keyword _ is_keyword =>
    revert is_keyword
    cases kind <;> simp [TokenKind.keywords, Lexeme.value]
  | mark is_mark =>
    obtain ⟨-, -, hstring, hpattern, hset⟩ := TokenKind.of_ofChar? is_mark
    cases kind <;> simp_all [Lexeme.value]
  | string escapes =>
    obtain ⟨-, rfl⟩ := escapes_iff.mp escapes
    exact congrArg unescape (inside_delimited _ _ _)
  | pattern | literalSet => exact inside_delimited _ _ _

theorem Scans.writes (h : Scans previous c rest kind source left) (gap : Text) :
    Writes kind source (Lexeme.value ⟨gap, kind, source⟩) ∧ Maximal kind left ∧
      Fits previous kind := by
  have hvalue : ∀ {value}, Writes kind source value →
      Writes kind source (Lexeme.value ⟨gap, kind, source⟩) :=
    fun h => h.value_eq gap ▸ h
  cases h with
  | pattern split =>
    refine ⟨hvalue (.pattern (splitDelimited_paired split)), ?_, ?_⟩
    · simp [Maximal, TokenKind.isWord, TokenKind.keywords]
    · simp [Fits]
  | literalSet takes split =>
    refine ⟨hvalue (.literalSet (splitSet_eq_some_iff.mp split).1), ?_, ?_⟩
    · simp [Maximal, TokenKind.isWord, TokenKind.keywords]
    · simp [Fits, takes]
  | mark is_mark no_set =>
    obtain ⟨hword, hnumber, -, -, hset⟩ := TokenKind.of_ofChar? is_mark
    refine ⟨hvalue (.mark is_mark), fun c _ => ?_, ?_⟩
    · exact ⟨fun hk => absurd hk (Bool.eq_false_iff.mp hword), fun hk => absurd hk hnumber⟩
    · refine ⟨fun hk => absurd hk hset, ?_⟩
      rintro rfl
      have hbracket : c = '[' := by
        unfold TokenKind.ofChar? at is_mark
        split at is_mark <;> cases is_mark
        rfl
      simpa [hbracket] using no_set
  | string split =>
    have hescapes := escapes_iff.mpr ⟨splitDelimited_paired split, rfl⟩
    refine ⟨hvalue (.string hescapes), ?_, ?_⟩
    · simp [Maximal, TokenKind.isWord, TokenKind.keywords]
    · simp [Fits]
  | @number c rest plain digit =>
    refine ⟨hvalue (.number (List.cons_ne_nil _ _) ?_), fun d hd => ⟨?_, fun _ => ?_⟩, ?_⟩
    · exact List.forall_mem_cons.mpr ⟨digit, fun d hd => List.mem_takeWhile_imp hd⟩
    · simp [TokenKind.isWord, TokenKind.keywords]
    · exact head?_dropWhile_eq_false hd
    · simp [Fits]
  | @word c rest plain digit starts =>
    have hkind := wordKind_isWord (c :: rest.takeWhile isIdentifierChar)
    have hword : IsWord (c :: rest.takeWhile isIdentifierChar) :=
      ⟨startsIdentifier_takeWhile starts, fun d hd => List.mem_takeWhile_imp hd⟩
    refine ⟨hvalue hword.writes, fun d hd => ⟨fun _ => ?_, ?_⟩, ?_⟩
    · exact head?_dropWhile_eq_false hd
    · exact fun hnumber => absurd hkind (by rw [hnumber]; decide)
    · exact ⟨fun hset => absurd hkind (by rw [hset]; decide),
        fun hbracket => absurd hkind (by rw [hbracket]; decide)⟩

theorem IsWord.scans (h : IsWord source) (previous : Option TokenKind)
    (hstop : ∀ c ∈ left.head?, isIdentifierChar c = false) :
    ∃ c rest, source ++ left = c :: rest ∧
      Scans previous c rest (wordKind source) source left := by
  obtain ⟨starts, chars⟩ := h
  cases source with
  | nil => cases starts
  | cons c word =>
    obtain ⟨hplain, hdigit⟩ := plain_of_startsIdentifier starts
    obtain ⟨htake, hdrop⟩ := takeWhile_append_stop hstop word
    have hscans : Scans previous c (word ++ left) _ _ _ :=
      .word hplain hdigit (startsIdentifier_append starts left)
    have hchars : ∀ d ∈ word, isIdentifierChar d = true := chars
    rw [htake, hdrop, List.takeWhile_eq_self_iff.mpr hchars,
      List.dropWhile_eq_nil_iff.mpr hchars] at hscans
    exact ⟨c, word ++ left, rfl, hscans⟩

/-- A token that is written at the front of a text is scanned there, if it ends where it is said to. -/
theorem scans_of_writes {value : Text} (h : Writes kind source value) (hmax : Maximal kind left)
    (hfits : Fits previous kind) :
    ∃ c rest, source ++ left = c :: rest ∧ Scans previous c rest kind source left := by
  cases h with
  | identifier identifier =>
    have hscans := identifier.toIsWord.scans previous fun c hc => (hmax c hc).1 rfl
    rwa [identifier.wordKind_eq] at hscans
  | keyword shape is_keyword upper =>
    have hscans := shape.scans previous fun c hc =>
      (hmax c hc).1 (by simp [TokenKind.isWord, is_keyword])
    rwa [wordKind_eq_iff.mpr (.inr ⟨is_keyword, upper⟩)] at hscans
  | number nonempty decimal =>
    obtain ⟨c, digits, rfl⟩ := List.exists_cons_of_ne_nil nonempty
    obtain ⟨hdigit, hdigits⟩ := List.forall_mem_cons.mp decimal
    obtain ⟨htake, hdrop⟩ := takeWhile_append_stop (fun c hc => (hmax c hc).2 rfl) digits
    refine ⟨c, digits ++ left, rfl, ?_⟩
    have hscans : Scans previous c (digits ++ left) _ _ _ :=
      .number (plain_of_isDecimal hdigit) hdigit
    rwa [htake, hdrop, List.takeWhile_eq_self_iff.mpr hdigits,
      List.dropWhile_eq_nil_iff.mpr hdigits] at hscans
  | @mark c _ is_mark =>
    refine ⟨c, left, rfl, .mark is_mark ?_⟩
    by_cases hc : c = '['
    · subst hc
      have hkind : kind = .leftBracket := (Option.some.inj is_mark).symm
      simp [hfits.2 hkind]
    · simp [hc]
  | string escapes =>
    have hsplit := splitDelimited_of_paired (by decide) (escapes_iff.mp escapes).1 left
    exact ⟨_, _, by simp, .string hsplit⟩
  | pattern paired =>
    exact ⟨_, _, by simp, .pattern (splitDelimited_of_paired (by decide) paired left)⟩
  | literalSet open_set =>
    exact ⟨_, _, by simp, .literalSet (hfits.1 rfl) (splitSet_eq_some_iff.mpr ⟨open_set, rfl⟩)⟩

theorem Writes.source_ne_nil {value : Text} (h : Writes kind source value) : source ≠ [] := by
  have hword : ∀ word, IsWord word → word ≠ [] := by
    rintro word ⟨starts, -⟩ rfl
    cases starts
  cases h with
  | identifier identifier => exact hword _ identifier.toIsWord
  | keyword shape => exact hword _ shape
  | number nonempty => exact nonempty
  | mark | string | pattern | literalSet => exact List.cons_ne_nil _ _

/-- No token begins like a gap. -/
theorem Writes.head {value : Text} (h : Writes kind source value) :
    ∀ c ∈ source.head?, isBlank c = false ∧ c ≠ '#' := by
  have hword : ∀ word, IsWord word → ∀ c ∈ word.head?, isBlank c = false ∧ c ≠ '#' := by
    rintro (_ | ⟨c, rest⟩) ⟨starts, -⟩ d hd
    · cases hd
    · obtain rfl := Option.some.inj hd
      obtain hletter | rfl | rfl := first_of_startsIdentifier starts
      · refine ⟨isBlank_eq_false_of_isAlpha hletter, ?_⟩
        rintro rfl
        exact Bool.eq_false_iff.mp (by decide +kernel) hletter
      · exact ⟨by decide +kernel, by decide⟩
      · exact ⟨by decide +kernel, by decide⟩
  cases h with
  | identifier identifier => exact hword _ identifier.toIsWord
  | keyword shape => exact hword _ shape
  | number _ decimal =>
    intro c hc
    have hdigit : isDecimal c = true := decimal c (List.mem_of_mem_head? hc)
    refine ⟨isBlank_eq_false_of_isDecimal hdigit, ?_⟩
    rintro rfl
    exact Bool.eq_false_iff.mp (by decide +kernel) hdigit
  | mark is_mark =>
    intro c hc
    obtain rfl := Option.some.inj hc
    unfold TokenKind.ofChar? at is_mark
    split at is_mark
    case h_11 => cases is_mark
    all_goals exact ⟨by decide +kernel, by decide⟩
  | string | pattern | literalSet =>
    intro c hc
    obtain rfl := Option.some.inj hc
    exact ⟨by decide +kernel, by decide⟩

end Morphotactics
