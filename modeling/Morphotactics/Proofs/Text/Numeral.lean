import Mathlib
import Morphotactics.Proofs.Text.Apart
import Morphotactics.Text.Numeral

/-! Integers spelled in decimal digits: which digits are too many, and which values the others have. -/
namespace Morphotactics

variable {digits : Text} {c : Char}

theorem ne_underscore_of_isDecimal (h : isDecimal c = true) : c ≠ '_' := by
  rintro rfl
  exact Bool.eq_false_iff.mp (by cbv) h

theorem underscoresApart_of_isDecimal (h : ∀ c ∈ digits, isDecimal c) :
    underscoresApart digits = true := by
  fun_induction underscoresApart digits with
  | case1 => rfl
  | case2 c => simpa using ne_underscore_of_isDecimal (h c List.mem_cons_self)
  | case3 rest => exact absurd rfl (ne_underscore_of_isDecimal (h '_' List.mem_cons_self))
  | case4 c rest _ _ ih => exact ih fun d hd => h d (List.mem_cons_of_mem c hd)

theorem isBlank_of_isNumeralBlank {text : Text} (h : isNumeralBlank text c = true) :
    isBlank c = true := by
  unfold isNumeralBlank at h
  split_ifs at h
  · simp only [Bool.or_eq_true, decide_eq_true_eq, Bool.and_eq_true] at h
    obtain rfl | ⟨hfirst, hlast⟩ := h
    · cbv
    · simp [isBlank, blankRanges, CodeRanges.has, Nat.not_lt.mpr hfirst, hlast]
  · exact h

theorem isNumeralBlank_eq_false {text : Text} (h : isDecimal c = true) :
    isNumeralBlank text c = false :=
  Bool.eq_false_iff.mpr fun hblank =>
    Bool.eq_false_iff.mp (isBlank_eq_false_of_isDecimal h) (isBlank_of_isNumeralBlank hblank)

/-- A text of digits alone has no sign and no blanks. -/
theorem readInteger_of_isDecimal (hne : digits ≠ []) (h : ∀ c ∈ digits, isDecimal c) :
    readInteger digits =
      if maxDigits < digits.length then .error (.tooLong digits.length)
      else .ok (digitsValue digits) := by
  obtain ⟨c, rest, rfl⟩ := List.exists_cons_of_ne_nil hne
  have hfirst : isDecimal c = true := h c List.mem_cons_self
  have hminus : c ≠ '-' := by
    rintro rfl
    exact Bool.eq_false_iff.mp (by cbv) hfirst
  have hplus : c ≠ '+' := by
    rintro rfl
    exact Bool.eq_false_iff.mp (by cbv) hfirst
  have hbody : (c :: rest).dropWhile (isNumeralBlank (c :: rest)) = c :: rest := by
    simp [isNumeralBlank_eq_false hfirst]
  have hparts : ∀ d ∈ c :: rest, (isDecimal d || d = '_') = true := by
    intro d hd
    simp [h d hd]
  have htake : (c :: rest).takeWhile (fun d => isDecimal d || d = '_') = c :: rest :=
    List.takeWhile_eq_self_iff.mpr hparts
  have hdrop : (c :: rest).dropWhile (fun d => isDecimal d || d = '_') = [] :=
    List.dropWhile_eq_nil_iff.mpr hparts
  have hcount : (c :: rest).filter isDecimal = c :: rest := List.filter_eq_self.mpr h
  simp [readInteger, hbody, hminus, hplus, htake, hdrop, hcount, underscoresApart_of_isDecimal h,
    ne_underscore_of_isDecimal hfirst]

theorem decimalDigit?_of_isDecimal (h : isDecimal c = true) :
    ∃ d, decimalDigit? c = some d ∧ d < 10 := by
  obtain ⟨range, hmem, hfirst, hlast⟩ := CodeRanges.exists_of_has h
  have hsome : (decimalRanges.find? fun r => r.1 ≤ c.toNat && c.toNat ≤ r.2).isSome :=
    List.find?_isSome.mpr ⟨range, hmem, by simp [hfirst, hlast]⟩
  obtain ⟨found, hfound⟩ := Option.isSome_iff_exists.mp hsome
  exact ⟨_, congrArg (Option.map _) hfound, Nat.mod_lt _ (by decide)⟩

theorem digitsValue_append_singleton {d : Nat} (h : decimalDigit? c = some d) (digits : Text) :
    digitsValue (digits ++ [c]) = 10 * digitsValue digits + d := by
  simp [digitsValue, h]

theorem digitsValue_lt (h : ∀ c ∈ digits, isDecimal c) :
    digitsValue digits < 10 ^ digits.length := by
  induction digits using List.reverseRecOn with
  | nil => decide
  | append_singleton digits c ih =>
    obtain ⟨hdigits, hlast⟩ := List.forall_mem_append.mp h
    obtain ⟨d, hd, hsmall⟩ := decimalDigit?_of_isDecimal (hlast c List.mem_cons_self)
    have hvalue := ih hdigits
    rw [digitsValue_append_singleton hd, List.length_append, List.length_singleton, Nat.pow_succ]
    omega

theorem toNat_of_isDigit (h : c.isDigit = true) : 0x30 ≤ c.toNat ∧ c.toNat ≤ 0x39 :=
  Char.isDigit_iff_toNat.mp h

theorem decimalDigit?_of_isDigit (h : c.isDigit = true) :
    decimalDigit? c = some (c.toNat - '0'.toNat) := by
  obtain ⟨hfirst, hlast⟩ := toNat_of_isDigit h
  have hsmall : c.toNat - 0x30 < 10 := by omega
  rw [decimalDigit?, decimalRanges, List.find?_cons_of_pos (by simp [hfirst, hlast])]
  exact congrArg some (Nat.mod_eq_of_lt hsmall)

theorem isDecimal_of_isDigit (h : c.isDigit = true) : isDecimal c = true := by
  obtain ⟨hfirst, hlast⟩ := toNat_of_isDigit h
  simp [isDecimal, decimalRanges, CodeRanges.has, Nat.not_lt.mpr hfirst, hlast]

theorem isDecimal_of_mem_ofNat {n : Nat} : ∀ c ∈ Text.ofNat n, isDecimal c :=
  fun _ hc => isDecimal_of_isDigit (Nat.isDigit_of_mem_toDigits (by decide) (by decide) hc)

theorem digitsValue_ofNat (n : Nat) : digitsValue (Text.ofNat n) = n := by
  have hdigits : (Text.ofNat n).filterMap decimalDigit? =
      (Text.ofNat n).map fun c => c.toNat - '0'.toNat := by
    rw [← List.filterMap_eq_map]
    refine List.filterMap_congr fun c hc => ?_
    exact decimalDigit?_of_isDigit (Nat.isDigit_of_mem_toDigits (by decide) (by decide) hc)
  rw [digitsValue, hdigits, List.foldl_map]
  exact Nat.ofDigitChars_ten_toDigits

/-- A number that is not too long is read back from its decimal spelling. -/
theorem readInteger_ofNat {n : Nat} (h : n < 10 ^ maxDigits) :
    readInteger (Text.ofNat n) = .ok n := by
  have hlength : (Text.ofNat n).length ≤ maxDigits :=
    (Nat.length_toDigits_le_iff (by decide) (by decide)).mpr h
  have hne : Text.ofNat n ≠ [] := Nat.toDigits_ne_nil
  rw [readInteger_of_isDecimal hne isDecimal_of_mem_ofNat,
    if_neg (Nat.not_lt.mpr hlength), digitsValue_ofNat]

/-- An integer that is spelled by digits alone. -/
theorem readInteger_range {n : Int} (hne : digits ≠ []) (hdigits : ∀ c ∈ digits, isDecimal c)
    (h : readInteger digits = .ok n) : 0 ≤ n ∧ n < 10 ^ maxDigits := by
  rw [readInteger_of_isDecimal hne hdigits] at h
  split_ifs at h with hlong
  obtain rfl := Except.ok.inj h
  have hvalue : digitsValue digits < 10 ^ maxDigits :=
    Nat.lt_of_lt_of_le (digitsValue_lt hdigits)
      (Nat.pow_le_pow_right (by decide) (Nat.le_of_not_lt hlong))
  have hcast := Int.ofNat_lt.mpr hvalue
  rw [Int.natCast_pow] at hcast
  exact ⟨Int.natCast_nonneg _, hcast⟩

end Morphotactics
