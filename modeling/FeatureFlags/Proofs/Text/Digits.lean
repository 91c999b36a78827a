import FeatureFlags.Proofs.Text.Parts
import FeatureFlags.Text.Digits
import Mathlib.Algebra.Order.Ring.Nat

namespace FeatureFlags.Text

variable {x y r : List Char} {n k : Nat} {c : Char}

def AllDigits (x : List Char) : Prop := ∀ c ∈ x, c.isDigit = true

theorem AllDigits.append (hx : AllDigits x) (hy : AllDigits y) : AllDigits (x ++ y) := by
  intro c hc
  rcases List.mem_append.1 hc with hc | hc
  · exact hx c hc
  · exact hy c hc

theorem AllDigits.take (hx : AllDigits x) (n : Nat) : AllDigits (x.take n) :=
  fun c hc => hx c (List.mem_of_mem_take hc)

theorem AllDigits.drop (hx : AllDigits x) (n : Nat) : AllDigits (x.drop n) :=
  fun c hc => hx c (List.mem_of_mem_drop hc)

theorem allDigits_replicate (n : Nat) : AllDigits (List.replicate n '0') := by
  intro c hc
  rw [List.eq_of_mem_replicate hc]
  rfl

theorem allDigits_toString (n : Nat) : AllDigits (toString n).toList := by
  intro c hc
  rw [Nat.toString_eq_repr, Nat.toList_repr] at hc
  exact Nat.isDigit_of_mem_toDigits (by decide) (by decide) hc

theorem isBlank_of_isDigit (h : c.isDigit = true) : isBlank c = false := by
  simp only [Char.isDigit, Bool.and_eq_true, decide_eq_true_eq] at h
  have hlower : 48 ≤ c.toNat := h.1
  have hupper : c.toNat ≤ 57 := h.2
  simp only [isBlank, Bool.or_eq_false_iff, Bool.and_eq_false_iff, decide_eq_false_iff_not,
    beq_eq_false_iff_ne]
  omega

theorem ne_sign_of_isDigit (h : c.isDigit = true) : c ≠ '-' ∧ c ≠ '+' := by
  constructor
  · rintro rfl
    cases h
  · rintro rfl
    cases h

theorem AllDigits.solid (hx : AllDigits x) : ∀ c ∈ x, isBlank c = false :=
  fun c hc => isBlank_of_isDigit (hx c hc)

theorem toString_ne_nil (n : Nat) : (toString n).toList ≠ [] := by
  rw [Nat.toString_eq_repr, Nat.toList_repr]
  exact Nat.toDigits_ne_nil

theorem length_toString_le_iff (hk : 0 < k) : (toString n).toList.length ≤ k ↔ n < 10 ^ k := by
  rw [Nat.toString_eq_repr, Nat.toList_repr]
  exact Nat.length_toDigits_le_iff (by decide) hk

theorem decimalValue_eq (x : List Char) : decimalValue x = Nat.ofDigitChars 10 x 0 := rfl

@[simp] theorem decimalValue_toString (n : Nat) : decimalValue (toString n).toList = n := by
  rw [decimalValue_eq, Nat.toString_eq_repr, Nat.toList_repr, Nat.ofDigitChars_ten_toDigits]

theorem decimalValue_append (x y : List Char) :
    decimalValue (x ++ y) = decimalValue x * 10 ^ y.length + decimalValue y := by
  rw [decimalValue_eq, Nat.ofDigitChars_append, Nat.ofDigitChars_eq_ofDigitChars_zero,
    Nat.mul_comm]
  rfl

@[simp] theorem decimalValue_replicate (n : Nat) : decimalValue (List.replicate n '0') = 0 := by
  rw [decimalValue_eq, Nat.ofDigitChars_replicate_zero, Nat.mul_zero]

end FeatureFlags.Text
