namespace FeatureFlags

namespace Binary64

/-- The number of units in one. -/
def one : Nat := .pow 2 1074

def overflow : Nat := .pow 2 2098

theorem overflow_pos : 0 < overflow := by
  unfold overflow
  apply Nat.two_pow_pos

/-- The distance between neighbouring doubles at a magnitude of `n` units. -/
def spacing (n : Nat) : Nat := .pow 2 (n.log2 - 52)

theorem spacing_pos (n : Nat) : 0 < spacing n := Nat.two_pow_pos _

/-- The multiple of `step` nearest to `num / den`, the even one of two. -/
def nearest (num den step : Nat) : Nat :=
  let quotient := num / (den * step)
  let twice := 2 * (num % (den * step))
  if den * step < twice ∨ (twice = den * step ∧ quotient % 2 = 1) then
    (quotient + 1) * step
  else quotient * step

def round (num den : Nat) : Nat := nearest num den (spacing (num / den))

theorem nearest_eq (num den step : Nat) : ∃ k, k ≤ num / (den * step) + 1 ∧
    nearest num den step = k * step := by
  unfold nearest
  dsimp only
  split
  · exact ⟨_, Nat.le_refl _, rfl⟩
  · exact ⟨_, Nat.le_succ _, rfl⟩

theorem spacing_dvd {k e : Nat} (hk : k ≤ .pow 2 53) :
    spacing (k * .pow 2 e) ∣ k * .pow 2 e := by
  unfold spacing
  simp only [Nat.pow_eq] at hk ⊢
  rcases Nat.lt_or_eq_of_le hk with hlt | rfl
  · refine Nat.dvd_trans (Nat.pow_dvd_pow 2 ?_) (Nat.dvd_mul_left _ k)
    by_cases h0 : k * 2 ^ e = 0
    · simp [h0]
    · have h : k * 2 ^ e < 2 ^ (53 + e) := by
        rw [Nat.pow_add]
        exact Nat.mul_lt_mul_of_pos_right hlt (Nat.two_pow_pos e)
      have := (Nat.log2_lt h0).2 h
      omega
  · rw [← Nat.pow_add, Nat.log2_two_pow]
    exact Nat.pow_dvd_pow 2 (by omega)

theorem div_spacing_lt (n : Nat) : n / spacing n < .pow 2 53 := by
  unfold spacing
  simp only [Nat.pow_eq]
  rw [Nat.div_lt_iff_lt_mul (Nat.two_pow_pos _), ← Nat.pow_add]
  exact Nat.lt_of_lt_of_le Nat.lt_log2_self (Nat.pow_le_pow_right (by decide) (by omega))

theorem round_dvd (num den : Nat) : spacing (round num den) ∣ round num den := by
  obtain ⟨k, hk, he⟩ := nearest_eq num den (spacing (num / den))
  have hq := div_spacing_lt (num / den)
  rw [Nat.div_div_eq_div_mul] at hq
  rw [round, he]
  exact spacing_dvd (by omega)

end Binary64

structure Binary64 where
  negative : Bool
  units : Nat
  exact : Binary64.spacing units ∣ units
  finite : units < Binary64.overflow
deriving DecidableEq

namespace Binary64

/-- The signed number of units. The two zeros agree. -/
def value (x : Binary64) : Int := if x.negative then -(x.units : Int) else x.units

instance : LT Binary64 := ⟨fun x y => x.value < y.value⟩
instance : LE Binary64 := ⟨fun x y => x.value ≤ y.value⟩
instance (x y : Binary64) : Decidable (x < y) := inferInstanceAs (Decidable (x.value < y.value))
instance (x y : Binary64) : Decidable (x ≤ y) := inferInstanceAs (Decidable (x.value ≤ y.value))

theorem lt_iff {x y : Binary64} : x < y ↔ x.value < y.value := Iff.rfl
theorem le_iff {x y : Binary64} : x ≤ y ↔ x.value ≤ y.value := Iff.rfl

def ofUnits (negative : Bool) (num den : Nat) : Option Binary64 :=
  if h : round num den < overflow then some ⟨negative, round num den, round_dvd num den, h⟩
  else none

def zero (negative : Bool) : Binary64 := ⟨negative, 0, Nat.dvd_zero _, overflow_pos⟩

def isZero (x : Binary64) : Bool := x.units == 0

def neg (x : Binary64) : Binary64 := { x with negative := !x.negative }

def ofInt? (n : Int) : Option Binary64 := ofUnits (n < 0) (n.natAbs * one) 1

def mul? (x y : Binary64) : Option Binary64 :=
  ofUnits (x.negative != y.negative) (x.units * y.units) one

/-- The rounded quotient; nothing is said of division by zero. -/
def div? (x y : Binary64) : Option Binary64 :=
  ofUnits (x.negative != y.negative) (x.units * one) y.units

/-- The double nearest to `digits * 10 ^ exponent`. The first two cases only spare
powers of ten that lie far beyond the range. -/
def ofDecimal? (negative : Bool) (digits : Nat) (exponent : Int) : Option Binary64 :=
  if digits = 0 ∨ exponent < -(400 + digits.log2 : Int) then some (zero negative)
  else if 400 < exponent then none
  else if exponent < 0 then ofUnits negative (digits * one) (.pow 10 exponent.natAbs)
  else ofUnits negative (digits * .pow 10 exponent.natAbs * one) 1

def trunc (x : Binary64) : Int :=
  if x.negative then -((x.units / one : Nat) : Int) else (x.units / one : Nat)

/-- The interchange encoding: sign bit, eleven bits of exponent, 52 bits of significand. -/
def bits (x : Binary64) : UInt64 :=
  let shift := x.units.log2 - 52
  let magnitude := shift * .pow 2 52 + x.units / .pow 2 shift
  UInt64.ofNat (if x.negative then .pow 2 63 + magnitude else magnitude)

end Binary64

end FeatureFlags
