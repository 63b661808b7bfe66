import QueryLint.Decimal.Layout

/-!
# Digits of whole numbers

The digits in base ten are digits, there is at least one, and the first of them is a zero for zero
alone.
-/

namespace QueryLint.Decimal

/-- A digit is no other character. -/
theorem ne_of_isDigit {c d : Char} (hc : c.isDigit = true) (hd : d.isDigit = false) : c ≠ d := by
  rintro rfl
  rw [hc] at hd
  exact Bool.noConfusion hd

theorem decimalDigits_zero : decimalDigits 0 = ['0'] :=
  Nat.toDigits_zero 10

theorem isDigit_of_mem_decimalDigits {n : Nat} {c : Char} (h : c ∈ decimalDigits n) :
    c.isDigit = true :=
  Nat.isDigit_of_mem_toDigits (by decide) (by decide) h

/-- Only zero is written with a zero in front. -/
theorem head_decimalDigits {n : Nat} (hn : 0 < n) :
    ∃ c digits, decimalDigits n = c :: digits ∧ c.isDigit = true ∧ c ≠ '0' := by
  induction n using Nat.strongRecOn with
  | _ n ih =>
    by_cases hsmall : n < 10
    · refine ⟨n.digitChar, [], Nat.toDigits_of_lt_base hsmall, ?_⟩
      have : ∀ n < 10, 0 < n → n.digitChar.isDigit = true ∧ n.digitChar ≠ '0' := by decide
      exact this n hsmall hn
    · obtain ⟨c, digits, hdigits, hc⟩ := ih (n / 10) (by omega) (by omega)
      refine ⟨c, digits ++ [(n % 10).digitChar], ?_, hc⟩
      rw [decimalDigits] at hdigits ⊢
      rw [Nat.toDigits_of_base_le (by decide) (by omega), hdigits, List.cons_append]

/-- The digits of a number begin with a digit. -/
theorem decimalDigits_eq_cons (n : Nat) :
    ∃ c digits, decimalDigits n = c :: digits ∧ c.isDigit = true := by
  rcases Nat.eq_zero_or_pos n with rfl | hpos
  · exact ⟨'0', [], decimalDigits_zero, rfl⟩
  · obtain ⟨c, digits, hdigits, hc, -⟩ := head_decimalDigits hpos
    exact ⟨c, digits, hdigits, hc⟩

end QueryLint.Decimal
