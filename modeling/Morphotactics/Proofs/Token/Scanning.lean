import Morphotactics.Proofs.Stepwise
import Morphotactics.Token.Lexer

/-! What the first token of a text can be, and what it leaves of the text. -/
namespace Morphotactics

/-- A character with which a number or a word may begin: it neither opens a text with a closing mark
nor is it a mark itself. -/
def Plain (c : Char) : Prop :=
  c ≠ '/' ∧ c ≠ '"' ∧ TokenKind.ofChar? c = none

/-- The token at the front of `c :: rest` has this kind and this source, and leaves the last text. -/
inductive Scans (previous : Option TokenKind) : Char → Text → TokenKind → Text → Text → Prop
  | pattern {rest inner left : Text} (split : splitDelimited '/' rest = some (inner, left)) :
      Scans previous '/' rest .pattern ('/' :: inner ++ ['/']) left
  | literalSet {rest inner left : Text} (takes : previous.any TokenKind.takesSet)
      (split : splitSet rest = some (inner, left)) :
      Scans previous '[' rest .literalSet ('[' :: inner ++ [']']) left
  | mark {c : Char} {kind : TokenKind} {rest : Text} (is_mark : TokenKind.ofChar? c = some kind)
      (no_set : (c = '[' && previous.any TokenKind.takesSet) = false) :
      Scans previous c rest kind [c] rest
  | string {rest inner left : Text} (split : splitDelimited '"' rest = some (inner, left)) :
      Scans previous '"' rest .string ('"' :: inner ++ ['"']) left
  | number {c : Char} {rest : Text} (plain : Plain c) (digit : isDecimal c) :
      Scans previous c rest .number (c :: rest.takeWhile isDecimal) (rest.dropWhile isDecimal)
  | word {c : Char} {rest : Text} (plain : Plain c) (digit : isDecimal c = false)
      (starts : startsIdentifier (c :: rest)) :
      Scans previous c rest (wordKind (c :: rest.takeWhile isIdentifierChar))
        (c :: rest.takeWhile isIdentifierChar) (rest.dropWhile isIdentifierChar)

variable {previous : Option TokenKind} {c : Char} {rest source left : Text} {kind : TokenKind}

theorem delimited_ok_iff {what : Delimited} {kind' : TokenKind} {first last : Char}
    {split : Option (Text × Text)} :
    delimited what kind' first last split = .ok (kind, source, left) ↔
      ∃ inner, split = some (inner, left) ∧ kind = kind' ∧ source = first :: inner ++ [last] := by
  cases split with
  | none => simp [delimited]
  | some parts =>
    obtain ⟨inner, rest⟩ := parts
    constructor
    · intro h
      cases h
      exact ⟨inner, rfl, rfl, rfl⟩
    · rintro ⟨_, h, rfl, rfl⟩
      cases h
      rfl

theorem not_isDecimal_slash : isDecimal '/' = false := by
  cbv

theorem not_startsIdentifier_slash (rest : Text) : startsIdentifier ('/' :: rest) = false := by
  have hletter : isAlpha '/' = false := by cbv
  simp [startsIdentifier, hletter]

theorem scans_of_scanToken (h : scanToken previous c rest = .ok (kind, source, left)) :
    Scans previous c rest kind source left := by
  unfold scanToken at h
  split at h
  · rename_i hslash
    obtain ⟨rfl, -⟩ : c = '/' ∧ _ := by simpa using hslash
    obtain ⟨inner, split, rfl, rfl⟩ := delimited_ok_iff.mp h
    exact .pattern split
  rename_i hslash
  split at h
  · rename_i hset
    obtain ⟨rfl, takes⟩ : c = '[' ∧ previous.any TokenKind.takesSet = true := by simpa using hset
    obtain ⟨inner, split, rfl, rfl⟩ := delimited_ok_iff.mp h
    exact .literalSet takes split
  rename_i hset
  split at h
  · rename_i mark is_mark
    cases h
    exact .mark is_mark (Bool.eq_false_iff.mpr hset)
  rename_i hmark
  have hnone : TokenKind.ofChar? c = none := by
    cases hc : TokenKind.ofChar? c with
    | none => rfl
    | some mark => exact absurd hc (hmark mark)
  split at h
  · rename_i hquote
    obtain rfl := hquote
    obtain ⟨inner, split, rfl, rfl⟩ := delimited_ok_iff.mp h
    exact .string split
  rename_i hquote
  split at h
  · rename_i digit
    have hplain : c ≠ '/' := by
      rintro rfl
      cases digit.symm.trans not_isDecimal_slash
    cases h
    exact .number ⟨hplain, hquote, hnone⟩ digit
  rename_i hdigit
  split at h
  · rename_i starts
    have hplain : c ≠ '/' := by
      rintro rfl
      cases starts.symm.trans (not_startsIdentifier_slash rest)
    cases h
    exact .word ⟨hplain, hquote, hnone⟩ (Bool.eq_false_iff.mpr hdigit) starts
  · cases h

theorem scanToken_of_scans (h : Scans previous c rest kind source left) :
    scanToken previous c rest = .ok (kind, source, left) := by
  cases h with
  | @pattern rest inner left split =>
    have hne : rest ≠ [] := by
      rintro rfl
      cases split
    simp [scanToken, hne, split, delimited]
  | literalSet takes split => simp [scanToken, takes, split, delimited]
  | mark is_mark no_set =>
    have hslash : c ≠ '/' := by
      rintro rfl
      cases is_mark
    simp [scanToken, hslash, no_set, is_mark]
  | string split => simp [scanToken, split, delimited, TokenKind.ofChar?]
  | number plain digit =>
    obtain ⟨hslash, hquote, hmark⟩ := plain
    have hset : c ≠ '[' := by
      rintro rfl
      cases hmark
    simp [scanToken, hslash, hset, hmark, hquote, digit]
  | word plain digit starts =>
    obtain ⟨hslash, hquote, hmark⟩ := plain
    have hset : c ≠ '[' := by
      rintro rfl
      cases hmark
    simp [scanToken, hslash, hset, hmark, hquote, digit, starts]

theorem scanToken_ok_iff :
    scanToken previous c rest = .ok (kind, source, left) ↔ Scans previous c rest kind source left :=
  ⟨scans_of_scanToken, scanToken_of_scans⟩

section Splitting

variable {text inner : Text}

theorem splitDelimited_text {close : Char} (h : splitDelimited close text = some (inner, left)) :
    text = inner ++ close :: left := by
  fun_induction splitDelimited close text generalizing inner with
  | case1 => cases h
  | case2 => cases h; rfl
  | case3 => cases h
  | case4 => cases h; rfl
  | case5 d rest _ ih =>
    obtain ⟨⟨i, l⟩, hr, he⟩ := Option.map_eq_some_iff.mp h
    cases he
    rw [ih hr]
    rfl
  | case6 c d rest _ _ ih =>
    obtain ⟨⟨i, l⟩, hr, he⟩ := Option.map_eq_some_iff.mp h
    cases he
    rw [ih hr]
    rfl

/-- A text that has been closed stays so, whatever is written behind it. -/
theorem splitDelimited_append {close : Char} (h : splitDelimited close text = some (inner, left))
    (more : Text) : splitDelimited close (text ++ more) = some (inner, left ++ more) := by
  fun_induction splitDelimited close text generalizing inner with
  | case1 => cases h
  | case2 =>
    cases h
    cases more <;> simp [splitDelimited]
  | case3 => cases h
  | case4 =>
    cases h
    simp [splitDelimited]
  | case5 d rest hclose ih =>
    obtain ⟨⟨i, l⟩, hr, he⟩ := Option.map_eq_some_iff.mp h
    cases he
    simp [splitDelimited, hclose, ih hr]
  | case6 c d rest hclose hslash ih =>
    obtain ⟨⟨i, l⟩, hr, he⟩ := Option.map_eq_some_iff.mp h
    cases he
    have hrest := ih hr
    rw [List.cons_append] at hrest
    simp [splitDelimited, hclose, hslash, hrest]

theorem splitSet_text (h : splitSet text = some (inner, left)) : text = inner ++ ']' :: left := by
  fun_induction splitSet text generalizing inner with
  | case1 => cases h
  | case2 => cases h; rfl
  | case3 c rest _ ih =>
    obtain ⟨⟨i, l⟩, hr, he⟩ := Option.map_eq_some_iff.mp h
    cases he
    rw [ih hr]
    rfl

theorem splitSet_append (h : splitSet text = some (inner, left)) (more : Text) :
    splitSet (text ++ more) = some (inner, left ++ more) := by
  fun_induction splitSet text generalizing inner with
  | case1 => cases h
  | case2 =>
    cases h
    simp [splitSet]
  | case3 c rest hclose ih =>
    obtain ⟨⟨i, l⟩, hr, he⟩ := Option.map_eq_some_iff.mp h
    cases he
    simp [splitSet, hclose, ih hr]

end Splitting

/-- A number or a word does not go on with this text. -/
def Breaks (text : Text) : Prop :=
  ∀ c ∈ text.head?, isDecimal c = false ∧ isIdentifierChar c = false

theorem breaks_newline (text : Text) : Breaks ('\n' :: text) := by
  intro c hc
  obtain rfl := Option.some.inj hc
  exact ⟨by cbv, by cbv⟩

theorem takeWhile_append_stop {p : Char → Bool} {more : Text} (h : ∀ c ∈ more.head?, p c = false)
    (text : Text) : (text ++ more).takeWhile p = text.takeWhile p ∧
      (text ++ more).dropWhile p = text.dropWhile p ++ more := by
  induction text with
  | nil =>
    cases more with
    | nil => simp
    | cons c more => simp [h c rfl]
  | cons c rest ih =>
    cases hc : p c <;> simp [hc, ih]

theorem startsIdentifier_append (h : startsIdentifier (c :: rest)) (more : Text) :
    startsIdentifier (c :: (rest ++ more)) := by
  cases rest with
  | nil =>
    have hletter : isAlpha c = true ∨ c = '_' := by simpa [startsIdentifier] using h
    simp [startsIdentifier, hletter]
  | cons d rest => exact h

theorem ofChar?_ne_eof : TokenKind.ofChar? c ≠ some .eof := by
  intro h
  unfold TokenKind.ofChar? at h
  split at h <;> cases h

theorem wordKind_ne_eof (word : Text) : wordKind word ≠ .eof := by
  unfold wordKind
  cases hfind : TokenKind.keywords.find? (·.name = upperText word) with
  | none => decide
  | some keyword =>
    have hmem : keyword ∈ TokenKind.keywords := List.mem_of_find?_eq_some hfind
    rintro rfl
    exact absurd hmem (by decide)

namespace Scans

theorem text (h : Scans previous c rest kind source left) : c :: rest = source ++ left := by
  cases h with
  | pattern split | string split => simp [splitDelimited_text split]
  | literalSet _ split => simp [splitSet_text split]
  | mark => rfl
  | number | word => simp

theorem source_ne_nil (h : Scans previous c rest kind source left) : source ≠ [] := by
  cases h <;> simp

theorem kind_ne_eof (h : Scans previous c rest kind source left) : kind ≠ .eof := by
  cases h with
  | pattern | string | literalSet | number => decide
  | mark is_mark =>
    rintro rfl
    exact ofChar?_ne_eof is_mark
  | word => exact wordKind_ne_eof _

/-- A token stays the same if a text is written behind it that does not go on with it. -/
theorem append (h : Scans previous c rest kind source left) {more : Text} (hmore : Breaks more) :
    Scans previous c (rest ++ more) kind source (left ++ more) := by
  have hdecimal : ∀ c ∈ more.head?, isDecimal c = false := fun c hc => (hmore c hc).1
  have hword : ∀ c ∈ more.head?, isIdentifierChar c = false := fun c hc => (hmore c hc).2
  cases h with
  | pattern split => exact .pattern (splitDelimited_append split more)
  | literalSet takes split => exact .literalSet takes (splitSet_append split more)
  | mark is_mark no_set => exact .mark is_mark no_set
  | string split => exact .string (splitDelimited_append split more)
  | number plain digit =>
    obtain ⟨htake, hdrop⟩ := takeWhile_append_stop hdecimal rest
    rw [← htake, ← hdrop]
    exact .number plain digit
  | word plain digit starts =>
    obtain ⟨htake, hdrop⟩ := takeWhile_append_stop hword rest
    rw [← htake, ← hdrop]
    exact .word plain digit (startsIdentifier_append starts more)

end Scans

end Morphotactics
