import FeatureFlags.Rollout
import Mathlib.Algebra.GroupWithZero.Nat
import Mathlib.Order.Interval.Finset.Nat

namespace FeatureFlags.Rollout

variable {variants rest vs ws : List Variant} {v : Variant} {b total : UInt32} {key : String}
  {i m n : Nat}

/-- The sum of the first `n` shares. -/
def allotted (variants : List Variant) (n : Nat) : Nat :=
  ((variants.take n).map fun v => v.percent.toNat).sum

@[simp]
theorem allotted_nil : allotted [] n = 0 := by
  rw [allotted, List.take_nil, List.map_nil, List.sum_nil]

@[simp]
theorem allotted_zero : allotted variants 0 = 0 := by
  rw [allotted, List.take_zero, List.map_nil, List.sum_nil]

@[simp]
theorem allotted_cons_succ :
    allotted (v :: variants) (n + 1) = v.percent.toNat + allotted variants n := by
  rw [allotted, List.take_succ_cons, List.map_cons, List.sum_cons, allotted]

theorem allotted_mono (h : m ≤ n) : allotted variants m ≤ allotted variants n := by
  induction variants generalizing m n with
  | nil => rw [allotted_nil, allotted_nil]
  | cons v variants ih =>
    cases m with
    | zero =>
      rw [allotted_zero]
      exact Nat.zero_le _
    | succ m =>
      cases n with
      | zero => omega
      | succ n =>
        rw [allotted_cons_succ, allotted_cons_succ]
        exact Nat.add_le_add_left (ih (Nat.le_of_succ_le_succ h)) _

theorem allotted_of_length_le (h : variants.length ≤ n) :
    allotted variants n = allotted variants variants.length := by
  rw [allotted, allotted, List.take_of_length_le h, List.take_length]

theorem allotted_succ (h : variants.drop n = v :: rest) :
    allotted variants (n + 1) = allotted variants n + v.percent.toNat := by
  have hv : variants[n]? = some v := by
    rw [← List.head?_drop, h, List.head?_cons]
  rw [allotted, List.take_add_one, hv, Option.toList_some, List.map_append, List.sum_append,
    List.map_singleton, List.sum_singleton, allotted]

theorem allotted_congr (h : (vs.take n).map Variant.percent = (ws.take n).map Variant.percent)
    (hmn : m ≤ n) : allotted vs m = allotted ws m := by
  have htake (l : List Variant) : allotted l m =
      (((l.take n).map Variant.percent).take m |>.map UInt8.toNat).sum := by
    rw [allotted, ← List.map_take, List.take_take, Nat.min_eq_left hmn, List.map_map]
    rfl
  rw [htake, htake, h]

theorem toNat_ofNat (h : n < buckets.toNat) : (UInt32.ofNat n).toNat = n :=
  UInt32.toNat_ofNat_of_lt' (h.trans (by decide))

theorem toNat_add_percent (h : total.toNat < buckets.toNat) :
    (total + v.percent.toUInt32).toNat = total.toNat + v.percent.toNat := by
  have hshare := v.percent.toNat_lt
  have hbuckets : buckets.toNat = 100 := rfl
  rw [UInt32.toNat_add, UInt8.toNat_toUInt32]
  omega

theorem lt_add_percent_iff (h : total.toNat < buckets.toNat) :
    b < total + v.percent.toUInt32 ↔ b.toNat < total.toNat + v.percent.toNat := by
  rw [UInt32.lt_iff_toNat_lt, toNat_add_percent h]

theorem pickFrom_eq_some_iff (hb : b.toNat < buckets.toNat) (htotal : total.toNat ≤ b.toNat) :
    pickFrom b total variants = some i ↔
      total.toNat + allotted variants i ≤ b.toNat ∧
        b.toNat < total.toNat + allotted variants (i + 1) := by
  induction variants generalizing total i with
  | nil =>
    simp only [pickFrom, allotted_nil, reduceCtorEq, false_iff]
    omega
  | cons v rest ih =>
    have hroom := htotal.trans_lt hb
    rw [pickFrom]
    split
    · next hpassed =>
      rw [lt_add_percent_iff hroom] at hpassed
      cases i with
      | zero => simp [htotal, hpassed]
      | succ i =>
        simp only [Option.some.injEq, allotted_cons_succ]
        omega
    · next hpassed =>
      rw [lt_add_percent_iff hroom, not_lt] at hpassed
      have hadd := toNat_add_percent (v := v) hroom
      have hrest (i : Nat) := @ih (total + v.percent.toUInt32) i (hadd.symm ▸ hpassed)
      cases i with
      | zero =>
        simp only [Option.map_eq_some_iff, allotted_cons_succ, allotted_zero]
        omega
      | succ i =>
        simp only [Option.map_eq_some_iff, Nat.succ.injEq, exists_eq_right, hrest, hadd,
          allotted_cons_succ, Nat.add_assoc]

theorem pickFrom_eq_none_iff (hb : b.toNat < buckets.toNat) (htotal : total.toNat ≤ b.toNat) :
    pickFrom b total variants = none ↔
      total.toNat + allotted variants variants.length ≤ b.toNat := by
  induction variants generalizing total with
  | nil => simp [pickFrom, htotal]
  | cons v rest ih =>
    have hroom := htotal.trans_lt hb
    rw [pickFrom, List.length_cons, allotted_cons_succ]
    split
    · next hpassed =>
      rw [lt_add_percent_iff hroom] at hpassed
      simp only [reduceCtorEq, false_iff]
      omega
    · next hpassed =>
      rw [lt_add_percent_iff hroom, not_lt] at hpassed
      have hadd := toNat_add_percent (v := v) hroom
      rw [Option.map_eq_none_iff, ih (hadd.symm ▸ hpassed), hadd, Nat.add_assoc]

/-- The variant at a position serves the buckets between the sums without and with its share. -/
theorem pickFrom_ofNat_eq_some_iff (hn : n < buckets.toNat) :
    pickFrom (.ofNat n) 0 variants = some i ↔
      allotted variants i ≤ n ∧ n < allotted variants (i + 1) := by
  have hb := toNat_ofNat hn
  rw [pickFrom_eq_some_iff (hb.symm ▸ hn) (Nat.zero_le _), hb, UInt32.toNat_zero, Nat.zero_add,
    Nat.zero_add]

theorem pickFrom_ofNat_eq_none_iff (hn : n < buckets.toNat) :
    pickFrom (.ofNat n) 0 variants = none ↔ allotted variants variants.length ≤ n := by
  have hb := toNat_ofNat hn
  rw [pickFrom_eq_none_iff (hb.symm ▸ hn) (Nat.zero_le _), hb, UInt32.toNat_zero, Nat.zero_add]

theorem pickIndex?_eq_some_iff :
    pickIndex? variants key = some i ↔
      allotted variants i ≤ bucket key ∧ bucket key < allotted variants (i + 1) :=
  pickFrom_ofNat_eq_some_iff (bucket_lt key)

theorem pickIndex?_eq_none_iff :
    pickIndex? variants key = none ↔ allotted variants variants.length ≤ bucket key :=
  pickFrom_ofNat_eq_none_iff (bucket_lt key)

/-- Up to a position are served the buckets below the sum of the shares so far. -/
theorem exists_pickIndex?_le_iff :
    (∃ j ≤ i, pickIndex? variants key = some j) ↔ bucket key < allotted variants (i + 1) := by
  simp only [pickIndex?_eq_some_iff]
  constructor
  · rintro ⟨j, hj, _, hlt⟩
    exact hlt.trans_le (allotted_mono (Nat.succ_le_succ hj))
  · intro hlt
    induction i with
    | zero => exact ⟨0, le_rfl, by rw [allotted_zero]; exact Nat.zero_le _, hlt⟩
    | succ i ih =>
      by_cases hbefore : bucket key < allotted variants (i + 1)
      · obtain ⟨j, hj, hpick⟩ := ih hbefore
        exact ⟨j, Nat.le_succ_of_le hj, hpick⟩
      · exact ⟨i + 1, le_rfl, not_lt.1 hbefore, hlt⟩

theorem lt_length_of_pickIndex? (h : pickIndex? variants key = some i) : i < variants.length := by
  obtain ⟨hle, hlt⟩ := pickIndex?_eq_some_iff.1 h
  by_contra hlength
  rw [allotted_of_length_le (not_lt.1 hlength)] at hle
  rw [allotted_of_length_le ((not_lt.1 hlength).trans (Nat.le_succ i))] at hlt
  omega

theorem pick?_of_pickIndex? (h : pickIndex? variants key = some i) :
    pick? variants key = variants[i]? := by
  rw [pick?, h]
  rfl

/-- A search for bucket `b` comes to a position with a running total and the variants from there on.
-/
inductive Reaches (b : UInt32) (variants : List Variant) :
    (position : Nat) → (total : UInt32) → (rest : List Variant) → Prop
  | start : Reaches b variants 0 0 variants
  | next {i : Nat} {total : UInt32} {v : Variant} {rest : List Variant} :
      Reaches b variants i total (v :: rest) → ¬ b < total + v.percent.toUInt32 →
      Reaches b variants (i + 1) (total + v.percent.toUInt32) rest

theorem Reaches.pickFrom_eq (h : Reaches b variants i total rest) :
    pickFrom b 0 variants = (pickFrom b total rest).map (· + i) := by
  induction h with
  | start => simp
  | next _ hleft ih =>
    rw [ih, pickFrom, if_neg hleft, Option.map_map]
    congr 1
    funext j
    simp only [Function.comp_apply]
    omega

/-- The running total has not passed the bucket, and is exact. -/
theorem Reaches.total_le (h : Reaches b variants i total rest) (hb : b.toNat < buckets.toNat) :
    total.toNat ≤ b.toNat ∧ total.toNat = allotted variants i ∧ variants.drop i = rest := by
  induction h with
  | start => exact ⟨Nat.zero_le _, by rw [allotted_zero]; rfl, List.drop_zero⟩
  | next _ hleft ih =>
    obtain ⟨hle, htotal, hdrop⟩ := ih
    have hroom := hle.trans_lt hb
    rw [lt_add_percent_iff hroom, not_lt] at hleft
    rw [toNat_add_percent hroom]
    refine ⟨hleft, ?_, ?_⟩
    · rw [allotted_succ hdrop, htotal]
    · rw [← List.drop_drop, hdrop, List.drop_one, List.tail_cons]

theorem Reaches.add_percent (h : Reaches b variants i total (v :: rest))
    (hb : b.toNat < buckets.toNat) :
    (total + v.percent.toUInt32).toNat = allotted variants (i + 1) ∧
      allotted variants (i + 1) ≤ 354 := by
  obtain ⟨hle, htotal, hdrop⟩ := h.total_le hb
  have hshare := v.percent.toNat_lt
  have hbuckets : buckets.toNat = 100 := rfl
  rw [toNat_add_percent (hle.trans_lt hb), allotted_succ hdrop, htotal]
  exact ⟨rfl, by omega⟩

/-- The buckets for which a search has a given result. -/
def served (variants : List Variant) (result : Option Nat) : Finset Nat :=
  (Finset.range buckets.toNat).filter fun n => pickFrom (.ofNat n) 0 variants = result

theorem card_served {result : Option Nat} {low high : Nat}
    (h : ∀ n < buckets.toNat, pickFrom (.ofNat n) 0 variants = result ↔ low ≤ n ∧ n < high) :
    (served variants result).card = min buckets.toNat high - min buckets.toNat low := by
  have hserved : served variants result =
      Finset.Ico (min buckets.toNat low) (min buckets.toNat high) := by
    ext n
    rw [served, Finset.mem_filter, Finset.mem_range, Finset.mem_Ico]
    by_cases hn : n < buckets.toNat
    · rw [h n hn]
      omega
    · omega
  rw [hserved, Nat.card_Ico]

theorem card_served_some (variants : List Variant) (i : Nat) :
    (served variants (some i)).card =
      min buckets.toNat (allotted variants (i + 1)) - min buckets.toNat (allotted variants i) :=
  card_served fun _ hn => pickFrom_ofNat_eq_some_iff hn

theorem card_served_none (variants : List Variant) :
    (served variants none).card =
      buckets.toNat - min buckets.toNat (allotted variants variants.length) := by
  have hfree (n : Nat) (hn : n < buckets.toNat) : pickFrom (.ofNat n) 0 variants = none ↔
      allotted variants variants.length ≤ n ∧ n < buckets.toNat := by
    rw [pickFrom_ofNat_eq_none_iff hn, and_iff_left hn]
  rw [card_served hfree, Nat.min_self]

/-- The variants share out the buckets without gaps and overlaps, each as many as its share says
while there are any left, and no total on the way overflows. -/
theorem shares_partition (variants : List Variant) (key : String) :
    (∀ i, pickIndex? variants key = some i ↔
        allotted variants i ≤ bucket key ∧ bucket key < allotted variants (i + 1)) ∧
      (∀ i, pickIndex? variants key = some i →
        ∃ v, variants[i]? = some v ∧ pick? variants key = some v) ∧
      (pick? variants key = none ↔ allotted variants variants.length ≤ bucket key) ∧
      (∀ i total v rest, Reaches (.ofNat (bucket key)) variants i total (v :: rest) →
        pickIndex? variants key = (pickFrom (.ofNat (bucket key)) total (v :: rest)).map (· + i) ∧
          (total + v.percent.toUInt32).toNat = allotted variants (i + 1) ∧
          allotted variants (i + 1) ≤ 354) ∧
      (∀ i, (served variants (some i)).card =
        min buckets.toNat (allotted variants (i + 1)) -
          min buckets.toNat (allotted variants i)) ∧
      (served variants none).card =
        buckets.toNat - min buckets.toNat (allotted variants variants.length) := by
  have hvariant {i : Nat} (h : pickIndex? variants key = some i) :
      ∃ v, variants[i]? = some v ∧ pick? variants key = some v := by
    have hv := List.getElem?_eq_getElem (lt_length_of_pickIndex? h)
    exact ⟨_, hv, (pick?_of_pickIndex? h).trans hv⟩
  refine ⟨fun i => pickIndex?_eq_some_iff, fun i => hvariant, ?_, ?_, card_served_some variants,
    card_served_none variants⟩
  · rw [← pickIndex?_eq_none_iff]
    cases hpick : pickIndex? variants key with
    | none => simp [pick?, hpick]
    | some i =>
      obtain ⟨v, _, hv⟩ := hvariant hpick
      simp [hv]
  · intro i total v rest h
    have hb : (UInt32.ofNat (bucket key)).toNat < buckets.toNat :=
      (toNat_ofNat (bucket_lt key)).symm ▸ bucket_lt key
    exact ⟨h.pickFrom_eq, h.add_percent hb⟩

def overfull : List Variant := [⟨⟨1⟩, "most", 99⟩, ⟨⟨2⟩, "rest", 255⟩]

theorem shares_overfull :
    Reaches (.ofNat (bucket "c")) overfull 1 99 [⟨⟨2⟩, "rest", 255⟩] ∧
      pick? overfull "c" = some ⟨⟨2⟩, "rest", 255⟩ ∧ allotted overfull 2 = 354 ∧
      (served overfull (some 1)).card = 1 := by
  obtain ⟨hpick, hvariant, _, hreaches, hserved, _⟩ := shares_partition overfull "c"
  have hreached : Reaches (.ofNat (bucket "c")) overfull 1 99 [⟨⟨2⟩, "rest", 255⟩] :=
    .next .start (by decide)
  obtain ⟨v, hv, hserves⟩ := hvariant 1 ((hpick 1).2 (by decide))
  obtain ⟨_, htotal, _⟩ := hreaches _ _ _ _ hreached
  rw [hserved]
  exact ⟨hreached, hserves.trans hv.symm, htotal.symm, by decide⟩

/-- However many variants are taken from the front, those of the second list have as large a share
as those of the first. -/
structure Ramps (vs ws : List Variant) : Prop where
  length_le : vs.length ≤ ws.length
  allotted_le : ∀ n ≤ vs.length, allotted vs n ≤ allotted ws n

/-- Where shares grow, no key is passed on to a later variant, and where the first shares stay the
same, so do the keys that they serve. -/
theorem Ramps.sticky (h : Ramps vs ws) (key : String) :
    (∀ i, pickIndex? vs key = some i → ∃ j ≤ i, pickIndex? ws key = some j) ∧
      ∀ n, (vs.take n).map Variant.percent = (ws.take n).map Variant.percent →
        ∀ i < n, pickIndex? vs key = some i ↔ pickIndex? ws key = some i := by
  constructor
  · intro i hi
    rw [exists_pickIndex?_le_iff]
    exact (pickIndex?_eq_some_iff.1 hi).2.trans_le
      (h.allotted_le _ (lt_length_of_pickIndex? hi))
  · intro n hn i hi
    rw [pickIndex?_eq_some_iff, pickIndex?_eq_some_iff, allotted_congr hn hi.le,
      allotted_congr hn hi]

def trial : List Variant := [⟨⟨1⟩, "old", 10⟩, ⟨⟨2⟩, "new", 20⟩, ⟨⟨3⟩, "other", 5⟩]

def launch : List Variant := [⟨⟨1⟩, "old", 10⟩, ⟨⟨2⟩, "new", 40⟩, ⟨⟨3⟩, "other", 5⟩]

theorem launch_sticky :
    Ramps trial launch ∧ pickIndex? trial "!" = some 2 ∧ (∃ j ≤ 2, pickIndex? launch "!" = some j) ∧
      (trial.take 1).map Variant.percent = (launch.take 1).map Variant.percent ∧
      pickIndex? trial "i" = some 0 ∧ pickIndex? launch "i" = some 0 := by
  have hramps : Ramps trial launch := ⟨by decide, by decide⟩
  have hlater : pickIndex? trial "!" = some 2 := by decide
  have hsame : (trial.take 1).map Variant.percent = (launch.take 1).map Variant.percent := rfl
  have hfirst : pickIndex? trial "i" = some 0 := by decide
  have hpicks := (hramps.sticky "!").1 2 hlater
  have hstays := ((hramps.sticky "i").2 1 hsame 0 Nat.one_pos).1 hfirst
  exact ⟨hramps, hlater, hpicks, hsame, hfirst, hstays⟩

end FeatureFlags.Rollout
