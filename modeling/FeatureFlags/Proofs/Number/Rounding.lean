import FeatureFlags.Number.Shortest
import Mathlib.Algebra.Order.Ring.Nat
import Mathlib.Tactic.Ring

namespace FeatureFlags.Binary64

variable {num den num' den' n k : Nat} {negative : Bool} {x y : Binary64}

theorem one_eq_pow {a : Nat} (h : a = 1074) : one = 2 ^ a := by
  unfold one
  rw [← h, Nat.pow_eq]

theorem overflow_eq_pow {a : Nat} (h : a = 2098) : overflow = 2 ^ a := by
  unfold overflow
  rw [← h, Nat.pow_eq]

theorem nearest_mul_right (hk : 0 < k) (step : Nat) :
    nearest (num * k) (den * k) step = nearest num den step := by
  have hstep : den * k * step = den * step * k := by ring
  have hmod : 2 * (num * k % (den * step * k)) = 2 * (num % (den * step)) * k := by
    rw [Nat.mul_mod_mul_right, Nat.mul_assoc]
  simp only [nearest, hstep, hmod, Nat.mul_div_mul_right _ _ hk, Nat.mul_lt_mul_right hk,
    Nat.mul_left_inj hk.ne']

theorem round_mul_right (hk : 0 < k) : round (num * k) (den * k) = round num den := by
  rw [round, Nat.mul_div_mul_right _ _ hk, nearest_mul_right hk, round]

theorem round_congr (h : num * den' = num' * den) (hden : 0 < den) (hden' : 0 < den') :
    round num den = round num' den' := by
  rw [← round_mul_right hden', h, Nat.mul_comm den, round_mul_right hden]

theorem round_of_dvd (h : spacing n ∣ n) : round n 1 = n := by
  have hpos := spacing_pos n
  have hmod : n % spacing n = 0 := Nat.mod_eq_zero_of_dvd h
  have hnot : ¬ (spacing n < 2 * 0 ∨ (2 * 0 = spacing n ∧ n / spacing n % 2 = 1)) := by omega
  simp only [round, nearest, Nat.div_one, Nat.one_mul, hmod, if_neg hnot]
  exact Nat.div_mul_cancel h

theorem round_eq_zero (h : 2 * num < den) : round num den = 0 := by
  have hzero : num / den = 0 := Nat.div_eq_of_lt (by omega)
  have hmod : num % den = num := Nat.mod_eq_of_lt (by omega)
  have hnot : ¬ (den < 2 * num ∨ (2 * num = den ∧ 0 % 2 = 1)) := by omega
  simp only [round, hzero, nearest, spacing, Nat.log2_zero, Nat.zero_sub, Nat.pow_eq, Nat.pow_zero,
    Nat.mul_one, hmod, if_neg hnot]

theorem two_pow_le_round {a : Nat} (hden : 0 < den) (h : 2 ^ a * den ≤ num) :
    2 ^ a ≤ round num den := by
  have hq : 2 ^ a ≤ num / den := (Nat.le_div_iff_mul_le hden).2 h
  have hpos : num / den ≠ 0 := ((Nat.two_pow_pos a).trans_le hq).ne'
  have hle : a ≤ (num / den).log2 := (Nat.le_log2 hpos).2 hq
  -- The greatest power of two below the number is a multiple of the spacing.
  have hdvd : spacing (num / den) ∣ 2 ^ (num / den).log2 :=
    Nat.pow_dvd_pow 2 (Nat.sub_le _ _)
  calc 2 ^ a ≤ 2 ^ (num / den).log2 := Nat.pow_le_pow_right (by decide) hle
    _ = 2 ^ (num / den).log2 / spacing (num / den) * spacing (num / den) :=
        (Nat.div_mul_cancel hdvd).symm
    _ ≤ num / den / spacing (num / den) * spacing (num / den) :=
        Nat.mul_le_mul_right _ (Nat.div_le_div_right (Nat.log2_self_le hpos))
    _ = num / (den * spacing (num / den)) * spacing (num / den) := by rw [Nat.div_div_eq_div_mul]
    _ ≤ round num den := by
        simp only [round, nearest]
        split
        · exact Nat.mul_le_mul_right _ (Nat.le_succ _)
        · exact le_rfl

theorem overflow_le_round (hden : 0 < den) (h : overflow * den ≤ num) :
    overflow ≤ round num den := by
  obtain ⟨a, ha⟩ : ∃ a, overflow = 2 ^ a := ⟨2098, overflow_eq_pow rfl⟩
  rw [ha] at h ⊢
  exact two_pow_le_round hden h

theorem round_le_two_pow {a : Nat} (h : num < 2 ^ a * den) : round num den ≤ 2 ^ a := by
  have hq : num / den < 2 ^ a := Nat.div_lt_of_lt_mul (Nat.mul_comm _ _ ▸ h)
  have hdvd : spacing (num / den) ∣ 2 ^ a := by
    apply Nat.pow_dvd_pow 2
    by_cases hzero : num / den = 0
    · simp [hzero]
    · exact (Nat.sub_le _ _).trans ((Nat.log2_lt hzero).2 hq).le
  obtain ⟨k, hk, he⟩ := nearest_eq num den (spacing (num / den))
  have hmultiple : k ≤ 2 ^ a / spacing (num / den) := by
    rw [← Nat.div_div_eq_div_mul] at hk
    exact hk.trans (Nat.div_lt_div_of_lt_of_dvd hdvd hq)
  calc round num den = k * spacing (num / den) := he
    _ ≤ 2 ^ a / spacing (num / den) * spacing (num / den) := Nat.mul_le_mul_right _ hmultiple
    _ = 2 ^ a := Nat.div_mul_cancel hdvd

theorem ofUnits_eq_some_iff :
    ofUnits negative num den = some x ↔ x.negative = negative ∧ x.units = round num den := by
  unfold ofUnits
  split
  · rw [Option.some.injEq]
    constructor
    · rintro rfl
      exact ⟨rfl, rfl⟩
    · rintro ⟨hnegative, hunits⟩
      cases x
      simp_all
  · next hlarge =>
    constructor
    · intro h
      cases h
    · rintro ⟨_, hunits⟩
      exact absurd (hunits ▸ x.finite) hlarge

theorem ofUnits_eq_none_iff : ofUnits negative num den = none ↔ overflow ≤ round num den := by
  unfold ofUnits
  split
  · next h => simp [h]
  · next h => simpa using h

theorem ofUnits_congr (h : num * den' = num' * den) (hden : 0 < den) (hden' : 0 < den') :
    ofUnits negative num den = ofUnits negative num' den' := by
  simp only [ofUnits, round_congr h hden hden']

theorem two_pow_three_mul_le (k : Nat) : 2 ^ (3 * k) ≤ 10 ^ k := by
  rw [Nat.pow_mul]
  exact Nat.pow_le_pow_left (by decide) k

theorem underflow_lt (hk : 400 + n.log2 < k) : 2 * (n * one) < 10 ^ k := by
  obtain ⟨a, ha⟩ : ∃ a, a = 1074 := ⟨_, rfl⟩
  rw [one_eq_pow ha]
  calc 2 * (n * 2 ^ a) < 2 * (2 ^ (n.log2 + 1) * 2 ^ a) := by
        have := Nat.mul_lt_mul_of_pos_right (@Nat.lt_log2_self n) (Nat.two_pow_pos a)
        omega
    _ = 2 ^ (n.log2 + 2 + a) := by ring
    _ ≤ 2 ^ (3 * k) := Nat.pow_le_pow_right (by decide) (by omega)
    _ ≤ 10 ^ k := two_pow_three_mul_le k

theorem overflow_le_mul (hn : n ≠ 0) (hk : 400 < k) : overflow * 1 ≤ n * 10 ^ k * one := by
  obtain ⟨a, ha⟩ : ∃ a, a = 1074 := ⟨_, rfl⟩
  obtain ⟨b, hb⟩ : ∃ b, b = 2098 := ⟨_, rfl⟩
  rw [one_eq_pow ha, overflow_eq_pow hb]
  calc 2 ^ b * 1 ≤ 2 ^ (3 * k + a) := by
        rw [Nat.mul_one]
        exact Nat.pow_le_pow_right (by decide) (by omega)
    _ = 1 * 2 ^ (3 * k) * 2 ^ a := by ring
    _ ≤ n * 10 ^ k * 2 ^ a := Nat.mul_le_mul_right _
        (Nat.mul_le_mul (Nat.one_le_iff_ne_zero.2 hn) (two_pow_three_mul_le k))

/-- A decimal is rounded as a ratio, whatever its size. -/
theorem ofDecimal?_eq (negative : Bool) (digits : Nat) (exponent : Int) :
    ofDecimal? negative digits exponent =
      ofUnits negative (digits * 10 ^ exponent.toNat * one) (10 ^ (-exponent).toNat) := by
  unfold ofDecimal?
  split
  · next hsmall =>
    symm
    rw [ofUnits_eq_some_iff]
    refine ⟨rfl, (round_eq_zero ?_).symm⟩
    rcases hsmall with rfl | hsmall
    · rw [Nat.zero_mul, Nat.zero_mul, Nat.mul_zero]
      exact Nat.pow_pos (by decide)
    · have htop : exponent.toNat = 0 := by omega
      rw [htop, Nat.pow_zero, Nat.mul_one]
      exact underflow_lt (by omega)
  · next hsmall =>
    rw [not_or, not_lt] at hsmall
    split
    · next hlarge =>
      symm
      rw [ofUnits_eq_none_iff]
      have hbottom : (-exponent).toNat = 0 := by omega
      rw [hbottom, Nat.pow_zero]
      exact overflow_le_round (by decide) (overflow_le_mul hsmall.1 (by omega))
    · split
      · next hneg =>
        have htop : exponent.toNat = 0 := by omega
        have hbottom : (-exponent).toNat = exponent.natAbs := by omega
        rw [htop, hbottom, Nat.pow_zero, Nat.mul_one]
        rfl
      · next hpos =>
        have htop : exponent.toNat = exponent.natAbs := by omega
        have hbottom : (-exponent).toNat = 0 := by omega
        rw [htop, hbottom]
        rfl

theorem ofDecimal?_mul_pow (negative : Bool) (digits : Nat) (exponent : Int) (k : Nat) :
    ofDecimal? negative (digits * 10 ^ k) (exponent - k) =
      ofDecimal? negative digits exponent := by
  have hpow (k : Nat) : 0 < 10 ^ k := Nat.pow_pos (by decide)
  rw [ofDecimal?_eq, ofDecimal?_eq]
  apply ofUnits_congr _ (hpow _) (hpow _)
  have hexponents : k + (exponent - k).toNat + (-exponent).toNat =
      exponent.toNat + (-(exponent - k)).toNat := by omega
  calc digits * 10 ^ k * 10 ^ (exponent - k).toNat * one * 10 ^ (-exponent).toNat
      = digits * one * 10 ^ (k + (exponent - k).toNat + (-exponent).toNat) := by ring
    _ = digits * one * 10 ^ (exponent.toNat + (-(exponent - k)).toNat) := by rw [hexponents]
    _ = digits * 10 ^ exponent.toNat * one * 10 ^ (-(exponent - k)).toNat := by ring

theorem ofDecimal?_int (n : Int) : ofDecimal? (n < 0) n.natAbs 0 = ofInt? n := by
  rw [ofDecimal?_eq, Int.toNat_zero, Int.neg_zero, Int.toNat_zero, Nat.pow_zero, Nat.mul_one]
  rfl

theorem trunc_of_positive (h : x.negative = false) : x.trunc = (x.units / one : Nat) := by
  rw [trunc, h, if_neg Bool.false_ne_true]

/-- A positive whole number within the range is rounded, though not across a power of two. -/
theorem exists_ofInt? {a b : Nat} {n : Int} (hlow : 2 ^ a ≤ n) (hhigh : n < 2 ^ b)
    (hb : b ≤ 1023) : ∃ x, ofInt? n = some x ∧ 2 ^ a ≤ x.trunc := by
  obtain ⟨c, hc⟩ : ∃ c, c = 1074 := ⟨_, rfl⟩
  obtain ⟨d, hd⟩ : ∃ d, d = 2098 := ⟨_, rfl⟩
  obtain ⟨m, rfl⟩ := Int.eq_ofNat_of_zero_le ((Int.pow_nonneg (by decide)).trans hlow)
  have hlow' : 2 ^ a ≤ m := by exact_mod_cast hlow
  have hhigh' : m < 2 ^ b := by exact_mod_cast hhigh
  have hone : 0 < 2 ^ c := Nat.two_pow_pos c
  have hround : 2 ^ (a + c) ≤ round (m * one) 1 := by
    apply two_pow_le_round Nat.one_pos
    rw [one_eq_pow hc, Nat.mul_one, Nat.pow_add]
    exact Nat.mul_le_mul_right _ hlow'
  have hfinite : round (m * one) 1 < overflow := by
    have hle : round (m * one) 1 ≤ 2 ^ (b + c) := by
      apply round_le_two_pow
      rw [one_eq_pow hc, Nat.mul_one, Nat.pow_add]
      exact Nat.mul_lt_mul_of_pos_right hhigh' hone
    rw [overflow_eq_pow hd]
    exact hle.trans_lt (Nat.pow_lt_pow_right (by decide) (by omega))
  cases hx : ofInt? m with
  | none =>
    rw [ofInt?, ofUnits_eq_none_iff] at hx
    exact absurd hfinite (not_lt.2 hx)
  | some x =>
    rw [ofInt?, ofUnits_eq_some_iff] at hx
    obtain ⟨hpositive, hunits⟩ := hx
    have htrunc : 2 ^ a ≤ x.units / one := by
      rw [hunits, one_eq_pow hc, Nat.le_div_iff_mul_le hone, ← Nat.pow_add, ← one_eq_pow hc]
      exact hround
    refine ⟨x, rfl, ?_⟩
    rw [trunc_of_positive (hpositive.trans (by simp)), ← Nat.cast_two, ← Nat.cast_pow]
    exact Int.ofNat_le.2 htrunc

theorem readsBack_exactDecimal (x : Binary64) : x.readsBack x.exactDecimal = true := by
  obtain ⟨a, ha⟩ : ∃ a, a = 1074 := ⟨_, rfl⟩
  have hdecimal : x.exactDecimal = ⟨x.units * 5 ^ a, -(a : Int)⟩ := by
    have hexponent : (-1074 : Int) = -(a : Int) := by omega
    rw [exactDecimal, hexponent, ← ha, Nat.pow_eq]
  have htop : (-(a : Int)).toNat = 0 := by omega
  have hbottom : (-(-(a : Int))).toNat = a := by omega
  have hratio : x.units * 5 ^ a * 10 ^ 0 * 2 ^ a * 1 = x.units * 10 ^ a := by
    have hten : 10 ^ a = 5 ^ a * 2 ^ a := Nat.mul_pow 5 2 a
    rw [hten]
    ring
  rw [readsBack, hdecimal, decide_eq_true_eq, ofDecimal?_eq, ofUnits_eq_some_iff, htop, hbottom,
    one_eq_pow ha]
  refine ⟨rfl, ?_⟩
  rw [round_congr hratio (Nat.pow_pos (by decide)) (by decide), round_of_dvd x.exact]

theorem readsBack_of_shorten? {d : Decimal} (h : x.shorten? n = some d) : x.readsBack d = true :=
  List.find?_some h

theorem readsBack_strip {d : Decimal} (fuel : Nat) (h : x.readsBack d = true) :
    x.readsBack (d.strip fuel) = true := by
  induction fuel generalizing d with
  | zero => exact h
  | succ fuel ih =>
    rw [Decimal.strip]
    split
    · next hzero =>
      apply ih
      have hdigits : d.digits / 10 * 10 ^ 1 = d.digits := by
        rw [Nat.pow_one]
        exact Nat.div_mul_cancel (Nat.dvd_of_mod_eq_zero hzero.2)
      have hscale := ofDecimal?_mul_pow x.negative (d.digits / 10) (d.exponent + 1) 1
      rw [hdigits, Int.natCast_one, Int.add_sub_cancel] at hscale
      rw [readsBack, decide_eq_true_eq] at h ⊢
      rw [← hscale, h]
    · exact h

/-- The shortest decimal of a double reads back. -/
theorem readsBack_shortest (x : Binary64) : x.readsBack x.shortest = true := by
  have hcandidate (candidates : List Nat) :
      x.readsBack ((candidates.findSome? x.shorten?).getD x.exactDecimal) = true := by
    cases hfind : candidates.findSome? x.shorten? with
    | none => exact readsBack_exactDecimal x
    | some d =>
      obtain ⟨_, _, hd⟩ := List.exists_of_findSome?_eq_some hfind
      exact readsBack_of_shorten? hd
  exact readsBack_strip _ (hcandidate _)

theorem ofDecimal?_shortest (x : Binary64) :
    ofDecimal? x.negative x.shortest.digits x.shortest.exponent = some x :=
  of_decide_eq_true (readsBack_shortest x)

end FeatureFlags.Binary64
