import FeatureFlags.Proofs.Time.Calendar
import Mathlib.Data.Int.Interval
import Mathlib.Data.Set.Card
import Mathlib.Data.Set.Finite.Lemmas
import Mathlib.Order.Defs.LinearOrder

namespace FeatureFlags.Time

namespace Instant

variable {a b t : Instant} {n : Int}

@[ext] theorem ext_nanos (h : a.nanos = b.nanos) : a = b := by
  cases a
  cases b
  simpa using h

instance : LinearOrder Instant where
  le_refl a := Int.le_refl a.nanos
  le_trans _ _ _ := Int.le_trans
  lt_iff_le_not_ge _ _ := Int.lt_iff_le_and_not_ge
  le_antisymm _ _ h h' := ext_nanos (Int.le_antisymm h h')
  le_total a b := Int.le_total a.nanos b.nanos
  toDecidableLE := inferInstance
  toDecidableEq := inferInstance
  toDecidableLT := inferInstance

theorem later_eq_max (a b : Instant) : a.later b = max a b := by
  rw [max_def, later]

theorem earlier_eq_min (a b : Instant) : a.earlier b = min a b := by
  rw [min_def, earlier]

theorem add?_eq_some_iff : t.add? n = some b ↔ b.Representable ∧ b.nanos = t.nanos + n := by
  simp only [add?, checked, Option.ite_none_right_eq_some, Option.some.injEq]
  constructor
  · rintro ⟨h, rfl⟩
    exact ⟨h, rfl⟩
  · rintro ⟨h, he⟩
    obtain rfl : b = ⟨t.nanos + n⟩ := ext_nanos he
    exact ⟨h, rfl⟩

theorem add?_eq_none_iff : t.add? n = none ↔ ¬ Representable ⟨t.nanos + n⟩ := by
  simp only [add?, checked, ite_eq_right_iff, reduceCtorEq, imp_false]

theorem le_pred_iff : a ≤ ⟨b.nanos - 1⟩ ↔ a < b := by
  rw [le_iff, lt_iff]
  simp only
  omega

theorem pred_lt (t : Instant) : ⟨t.nanos - 1⟩ < t :=
  le_pred_iff.1 le_rfl

/-- Those that begin a second. -/
def Whole (t : Instant) : Prop := t.fraction = 0

theorem whole_iff : t.Whole ↔ t = ofSeconds t.seconds := by
  constructor
  · intro h
    ext
    simp only [Whole, fraction] at h
    simp only [ofSeconds, seconds]
    omega
  · intro h
    rw [h]
    simp only [Whole, fraction, ofSeconds]
    omega

@[simp] theorem seconds_ofSeconds (n : Int) : (ofSeconds n).seconds = n := by
  simp only [seconds, ofSeconds]
  omega

theorem whole_ofSeconds (n : Int) : (ofSeconds n).Whole := by
  rw [whole_iff, seconds_ofSeconds]

theorem ofSeconds_lt_iff {m n : Int} : ofSeconds m < ofSeconds n ↔ m < n := by
  simp only [lt_iff, ofSeconds]
  omega

theorem lt_ofSeconds_iff : t < ofSeconds n ↔ t.seconds < n := by
  simp only [lt_iff, ofSeconds, seconds]
  omega

@[simp] theorem clock_ofSeconds (n : Int) : (ofSeconds n).clock = ClockTime.ofSeconds n := by
  rw [clock, seconds_ofSeconds]

@[simp] theorem seconds_clock (t : Instant) : t.clock.seconds = t.seconds :=
  ClockTime.seconds_ofSeconds _

theorem encard_whole_le {S : Set Instant} {m n : Int}
    (h : ∀ t ∈ S, t.Whole ∧ m < t.seconds ∧ t.seconds ≤ n) : S.encard ≤ (n - m).toNat := by
  have hinj : Set.InjOn seconds S := by
    intro a ha b hb he
    rw [whole_iff.1 (h a ha).1, whole_iff.1 (h b hb).1, he]
  have hsub : seconds '' S ⊆ (Finset.Ioc m n : Set Int) := by
    rintro _ ⟨t, ht, rfl⟩
    exact Finset.mem_coe.2 (Finset.mem_Ioc.2 (h t ht).2)
  rw [← hinj.encard_image, ← Int.card_Ioc, ← Set.encard_coe_eq_coe_finsetCard]
  exact Set.encard_le_encard hsub

theorem exists_isGreatest {S : Set Instant} {n : Nat} (hne : S.Nonempty) (hfew : S.encard ≤ n) :
    ∃ t, IsGreatest S t := by
  obtain ⟨t, ht, hmax⟩ := Set.exists_max_image S id (Set.finite_of_encard_le_coe hfew) hne
  exact ⟨t, ht, hmax⟩

theorem seconds_mono (h : a ≤ b) : a.seconds ≤ b.seconds := by
  rw [le_iff] at h
  simp only [seconds]
  omega

theorem le_year_iff {year : Int} :
    year ≤ (ClockTime.ofSeconds n).year ↔ (ofYear year).seconds ≤ n := by
  have hfirst : Date.Valid ⟨year, 1, 1⟩ := by
    simp [Date.Valid, daysInMonth]
  have hvalid := Date.ofDayNumber_valid (n / 86400)
  have hle := hfirst.dayNumber_le_iff hvalid
  obtain ⟨hm, _, hd, _⟩ := hvalid
  rw [Date.dayNumber_ofDayNumber] at hle
  simp only at hle
  have hyear : (ClockTime.ofSeconds n).year = (Date.ofDayNumber (n / 86400)).year := rfl
  rw [hyear, ofYear, seconds_ofSeconds]
  simp only [ClockTime.seconds, ClockTime.date]
  omega

end Instant

end FeatureFlags.Time
