import Morphotactics.Proofs.Grammar.Declared

/-! Identifiers of rule blocks: within a grammar each belongs to one block. -/
namespace Morphotactics

theorem digitValue_digitChar {d : Nat} (h : d < 16) : digitValue d.digitChar = d := by
  have hall : ∀ d : Fin 16, digitValue d.val.digitChar = d.val := by decide
  exact hall ⟨d, h⟩

theorem valueIn_append_singleton (base : Nat) (digits : Text) (c : Char) :
    valueIn base (digits ++ [c]) = base * valueIn base digits + digitValue c := by
  simp [valueIn]

theorem valueIn_toDigits (n : Nat) : valueIn 16 (Nat.toDigits 16 n) = n := by
  induction n using Nat.strongRecOn with
  | _ n ih =>
    rw [Nat.toDigits_eq_if (by decide)]
    split_ifs with hsmall
    · simp [valueIn, digitValue_digitChar hsmall]
    · have hquotient : n / 16 < n := Nat.div_lt_self (by omega) (by decide)
      have hdigit : n % 16 < 16 := Nat.mod_lt n (by decide)
      rw [valueIn_append_singleton, ih _ hquotient, digitValue_digitChar hdigit]
      exact Nat.div_add_mod n 16

theorem valueIn_hex (width n : Nat) : valueIn 16 (Text.hex width n) = n := by
  have hzeros : ∀ count : Nat, (List.replicate count '0').foldl
      (fun value c => 16 * value + digitValue c) 0 = 0 := by
    intro count
    induction count with
    | zero => rfl
    | succ count ih =>
      rw [List.replicate_succ]
      exact ih
  rw [Text.hex, valueIn, List.foldl_append, hzeros]
  exact valueIn_toDigits n

theorem Rule.serial_of_id {a b : Rule} (h : a.id = b.id) : a.serial = b.serial := by
  have hhex : Text.hex 8 a.serial = Text.hex 8 b.serial := List.append_cancel_right h
  rw [← valueIn_hex 8 a.serial, hhex, valueIn_hex]

/-- No two rule blocks of a grammar have the same identifier. -/
theorem Grammar.WellKeyed.eq_of_id {g : Grammar} (hg : g.WellKeyed) {a b : Rule}
    (ha : a ∈ g.allRules) (hb : b ∈ g.allRules) (h : a.id = b.id) : a = b :=
  List.inj_on_of_nodup_map hg.serial_nodup ha hb (Rule.serial_of_id h)

end Morphotactics
