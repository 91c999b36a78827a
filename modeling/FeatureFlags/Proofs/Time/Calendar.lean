import FeatureFlags.Time.Instant
import Mathlib.Order.Basic
import Mathlib.Tactic.Linarith

namespace FeatureFlags.Time

namespace Date

variable {d d' : Date} {year : Int} {month month' : Nat}

theorem daysBeforeYear_lt {y y' : Int} (h : y < y') :
    daysBeforeYear y + 365 ≤ daysBeforeYear y' := by
  simp only [daysBeforeYear]
  omega

theorem daysBeforeMonth_succ (h : 1 ≤ month) :
    daysBeforeMonth year (month + 1) = daysBeforeMonth year month + daysInMonth year month := by
  cases month with
  | zero => omega
  | succ => rfl

theorem daysBeforeMonth_mono (h : month ≤ month') :
    daysBeforeMonth year month ≤ daysBeforeMonth year month' := by
  induction h with
  | refl => exact le_rfl
  | @step n _ ih =>
    refine ih.trans ?_
    cases n with
    | zero => exact le_rfl
    | succ => exact Nat.le_add_right _ _

theorem isLeap_iff : isLeap year = true ↔ year % 4 = 0 ∧ (year % 100 ≠ 0 ∨ year % 400 = 0) := by
  simp [isLeap]

theorem daysBeforeMonth_thirteen (year : Int) :
    (daysBeforeMonth year 13 : Int) = daysBeforeYear (year + 1) - daysBeforeYear year := by
  simp only [daysBeforeMonth, daysInMonth, daysBeforeYear, Int.add_sub_cancel]
  split
  · next h =>
    rw [isLeap_iff] at h
    omega
  · next h =>
    rw [isLeap_iff] at h
    omega

theorem Valid.month_end (h : d.Valid) :
    daysBeforeMonth d.year d.month + d.day ≤ daysBeforeMonth d.year (d.month + 1) := by
  obtain ⟨hm, _, _, hd⟩ := h
  rw [daysBeforeMonth_succ hm]
  omega

theorem Valid.year_bounds (h : d.Valid) :
    daysBeforeYear d.year ≤ d.dayNumber + epoch ∧
      d.dayNumber + epoch < daysBeforeYear (d.year + 1) := by
  have hend := h.month_end
  have hmono : daysBeforeMonth d.year (d.month + 1) ≤ daysBeforeMonth d.year 13 :=
    daysBeforeMonth_mono (by have := h.2.1; omega)
  have hfull := daysBeforeMonth_thirteen d.year
  have hday := h.2.2.1
  simp only [dayNumber]
  omega

theorem Valid.dayNumber_lt_of_year (h : d.Valid) (h' : d'.Valid) (hy : d.year < d'.year) :
    d.dayNumber < d'.dayNumber := by
  have hb := h.year_bounds.2
  have hb' := h'.year_bounds.1
  rcases (show d.year + 1 < d'.year ∨ d.year + 1 = d'.year by omega) with hlt | heq
  · have := daysBeforeYear_lt hlt
    omega
  · rw [heq] at hb
    omega

theorem Valid.dayNumber_lt_of_month (h : d.Valid) (h' : d'.Valid) (hy : d.year = d'.year)
    (hm : d.month < d'.month) : d.dayNumber < d'.dayNumber := by
  have hend := h.month_end
  have hmono : daysBeforeMonth d.year (d.month + 1) ≤ daysBeforeMonth d.year d'.month :=
    daysBeforeMonth_mono hm
  have hday := h'.2.2.1
  simp only [dayNumber, ← hy]
  omega

theorem Valid.dayNumber_le_iff (h : d.Valid) (h' : d'.Valid) :
    d.dayNumber ≤ d'.dayNumber ↔
      d.year ≤ d'.year ∧ (d'.year = d.year →
        d.month ≤ d'.month ∧ (d'.month = d.month → d.day ≤ d'.day)) := by
  rcases lt_trichotomy d.year d'.year with hy | hy | hy
  · have := h.dayNumber_lt_of_year h' hy
    omega
  · rcases lt_trichotomy d.month d'.month with hm | hm | hm
    · have := h.dayNumber_lt_of_month h' hy hm
      omega
    · simp only [dayNumber, hy, hm, le_refl, true_and, forall_const]
      omega
    · have := h'.dayNumber_lt_of_month h hy.symm hm
      omega
  · have := h'.dayNumber_lt_of_year h hy
    omega

theorem Valid.ext_dayNumber (h : d.Valid) (h' : d'.Valid) (he : d.dayNumber = d'.dayNumber) :
    d = d' := by
  have hle := (h.dayNumber_le_iff h').1 he.le
  have hge := (h'.dayNumber_le_iff h).1 he.ge
  cases d with
  | mk y m day =>
    cases d' with
    | mk y' m' day' =>
      simp only [Date.mk.injEq] at *
      omega

/-- What the search for the month keeps: the days counted so far and those left. -/
theorem monthAndDay_spec (year : Int) (fuel month rest : Nat) (hm : 1 ≤ month)
    (hf : month + fuel = 12)
    (hr : daysBeforeMonth year month + rest < daysBeforeMonth year 13) :
    ∃ m day, monthAndDay year fuel month rest = (m, day) ∧ 1 ≤ m ∧ m ≤ 12 ∧ 1 ≤ day ∧
      day ≤ daysInMonth year m ∧
      daysBeforeMonth year m + day = daysBeforeMonth year month + rest + 1 := by
  induction fuel generalizing month rest with
  | zero =>
    obtain rfl : month = 12 := hf
    have hlast : daysBeforeMonth year 13 = daysBeforeMonth year 12 + daysInMonth year 12 :=
      daysBeforeMonth_succ hm
    exact ⟨12, rest + 1, rfl, hm, le_rfl, by omega, by omega, by omega⟩
  | succ fuel ih =>
    have hsucc : daysBeforeMonth year (month + 1) =
        daysBeforeMonth year month + daysInMonth year month := daysBeforeMonth_succ hm
    simp only [monthAndDay]
    split
    · exact ⟨month, rest + 1, rfl, hm, by omega, by omega, by omega, by omega⟩
    · obtain ⟨m, day, he, h1, h2, h3, h4, h5⟩ :=
        ih (month + 1) (rest - daysInMonth year month) (by omega) (by omega) (by omega)
      exact ⟨m, day, he, h1, h2, h3, h4, by omega⟩

theorem ofDayNumber_spec (n : Int) : (ofDayNumber n).Valid ∧ (ofDayNumber n).dayNumber = n := by
  obtain ⟨hlow, hhigh⟩ := daysBeforeYear_yearOf (n + epoch)
  have hfull := daysBeforeMonth_thirteen (yearOf (n + epoch))
  obtain ⟨m, day, he, h1, h2, h3, h4, h5⟩ := monthAndDay_spec (yearOf (n + epoch)) 11 1
    (n + epoch - daysBeforeYear (yearOf (n + epoch))).toNat le_rfl rfl
    (by simp only [daysBeforeMonth] at *; omega)
  have hdate : ofDayNumber n = ⟨yearOf (n + epoch), m, day⟩ := by
    simp only [ofDayNumber, he]
  rw [hdate]
  refine ⟨⟨h1, h2, h3, h4⟩, ?_⟩
  simp only [daysBeforeMonth] at h5
  simp only [dayNumber]
  omega

theorem ofDayNumber_valid (n : Int) : (ofDayNumber n).Valid := (ofDayNumber_spec n).1

@[simp] theorem dayNumber_ofDayNumber (n : Int) : (ofDayNumber n).dayNumber = n :=
  (ofDayNumber_spec n).2

end Date

namespace ClockTime

variable {c c' : ClockTime}

def Valid (c : ClockTime) : Prop := c.date.Valid ∧ c.hour < 24 ∧ c.minute < 60 ∧ c.second < 60

theorem Valid.ext_seconds (h : c.Valid) (h' : c'.Valid) (he : c.seconds = c'.seconds) :
    c = c' := by
  obtain ⟨hd, hh, hm, hs⟩ := h
  obtain ⟨hd', hh', hm', hs'⟩ := h'
  simp only [seconds] at he
  have hdate := hd.ext_dayNumber hd' (by omega)
  rw [hdate] at he
  cases c with
  | mk y m d hour minute second =>
    cases c' with
    | mk y' m' d' hour' minute' second' =>
      simp only [date, Date.mk.injEq, ClockTime.mk.injEq] at *
      omega

theorem ofSeconds_valid (n : Int) : (ofSeconds n).Valid := by
  refine ⟨Date.ofDayNumber_valid _, ?_, ?_, ?_⟩ <;> simp only [ofSeconds] <;> omega

@[simp] theorem seconds_ofSeconds (n : Int) : (ofSeconds n).seconds = n := by
  have hdate : (ofSeconds n).date = Date.ofDayNumber (n / 86400) := rfl
  simp only [seconds, hdate, Date.dayNumber_ofDayNumber]
  simp only [ofSeconds]
  omega

theorem Valid.ofSeconds_seconds (h : c.Valid) : ofSeconds c.seconds = c :=
  (ofSeconds_valid _).ext_seconds h (seconds_ofSeconds _)

end ClockTime

end FeatureFlags.Time
