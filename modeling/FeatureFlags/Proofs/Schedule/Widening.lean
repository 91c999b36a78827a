import FeatureFlags.Proofs.Schedule.Activity

namespace FeatureFlags

open Time

namespace Recurrence

variable {r r' : Recurrence} {F : Set Instant} {time : Instant}

/-- The same firings, with windows that are no shorter, from no later on. -/
structure Widens (r' r : Recurrence) : Prop where
  firings : r'.firingsAfter = r.firingsAfter
  length : r.length ≤ r'.length
  start : r'.start ≤ r.start

namespace Widens

theorem floor_le (h : r'.Widens r) : r'.floor ≤ r.floor := by
  rcases h.start.eq_or_lt with heq | hlt
  · rw [floor, floor, heq]
  · exact floor_le_start.trans ((Instant.le_pred_iff.2 hlt).trans pred_le_floor)

theorem horizon_le (h : r'.Widens r) (htime : time ≤ Instant.last) :
    r'.horizon time ≤ r.horizon time := by
  have hfloor := h.floor_le
  have hlength : r.length.nanos ≤ r'.length.nanos := by
    have : (r.length : Int) ≤ r'.length := Int.ofNat_le.2 h.length
    simp only [Seconds.nanos]
    omega
  cases hf' : time.add? (-r'.length.nanos) with
  | none =>
    have heq : r'.horizon time = r'.floor := by rw [horizon, hf']
    rw [heq]
    exact hfloor.trans floor_le_horizon
  | some earliest' =>
    obtain ⟨hrep', he'⟩ := Instant.add?_eq_some_iff.1 hf'
    have hpos := nanos_nonneg r.length
    -- The shorter windows cannot reach back out of range where the longer ones do not.
    have hrep : Instant.Representable ⟨time.nanos + -r.length.nanos⟩ := by
      simp only [Instant.Representable, Instant.le_iff] at *
      omega
    have hf : time.add? (-r.length.nanos) = some ⟨time.nanos + -r.length.nanos⟩ :=
      Instant.add?_eq_some_iff.2 ⟨hrep, rfl⟩
    have hle : earliest' ≤ ⟨time.nanos + -r.length.nanos⟩ := by
      rw [Instant.le_iff, he']
      simp only
      omega
    rw [horizon, horizon, hf, hf']
    simp only [Instant.later_eq_max]
    exact max_le_max hle hfloor

theorem lookBack_subset (h : r'.Widens r) (htime : time ≤ Instant.last) :
    r.lookBack F time ⊆ r'.lookBack F time :=
  fun _ hp => ⟨hp.1, (h.horizon_le htime).trans_lt hp.2.1, hp.2.2⟩

end Widens

end Recurrence

namespace Schedule

variable {s s' : Schedule} {reading : Reading} {created time : Instant} {r : Recurrence}

/-- The same expression in the same zone, with windows that are well formed and no shorter, from no
later on and until no earlier. -/
structure Widens (s' s : Schedule) (created : Instant) : Prop where
  cron : s'.cron = s.cron
  timezone : s'.timezone = s.timezone
  length : ∃ n, s'.length? = some n ∧ ∀ m ∈ s.length?, m ≤ n
  start : s'.effectiveStart created ≤ s.effectiveStart created
  stop : ∀ stop' ∈ s'.end?, ∃ stop ∈ s.end?, stop ≤ stop'

theorem Widens.recurrence? (h : s'.Widens s created)
    (hr : s.recurrence? reading created = some r) :
    ∃ r', s'.recurrence? reading created = some r' ∧ r'.Widens r := by
  obtain ⟨e, m, he, hm, rfl⟩ := recurrence?_eq_some_iff.1 hr
  obtain ⟨n, hn, hle⟩ := h.length
  have he' : s'.expression? = some e := by
    rw [expression?_eq_some_iff, h.cron]
    exact expression?_eq_some_iff.1 he
  have hzone : s'.zone reading.zone = s.zone reading.zone := by
    rw [zone, zone, h.timezone]
  refine ⟨_, recurrence?_eq_some_iff.2 ⟨e, n, he', hn, rfl⟩, ?_, hle m hm, h.start⟩
  rw [hzone]

/-- Where all firings come in order of time, those that a look-back sees do. -/
theorem sees_of_chronological {zone : Zone} {limit : Nat} {F : Set Instant} {e : Cron.Expression}
    (he : s.expression? = some e)
    (hF : e.Chronological (s.zone zone) F ⟨(s.effectiveStart created).nanos - 1⟩)
    (hr : s.recurrence? { zone, limit } created = some r) : r.Sees F time := by
  obtain ⟨_, _, he', _, rfl⟩ := recurrence?_eq_some_iff.1 hr
  rw [he, Option.some.injEq] at he'
  subst he'
  exact Recurrence.Chronological.sees fun _ hafter => hF.lists hafter

theorem exists_recurrence?_of_isActive (hs : s.isRecurring = true)
    (hactive : s.isActive reading created time = true) :
    ∃ r, s.recurrence? reading created = some r := by
  rw [isActive, hs, if_pos rfl, Option.any_eq_true] at hactive
  obtain ⟨r, hr, _⟩ := hactive
  exact ⟨r, hr⟩

/-- A schedule that is wider than an active one is active too, just when its look-back goes through
no more firings than it looks at. -/
theorem isActive_widened_iff {zone : Zone} {limit : Nat} {F : Set Instant}
    (hs : s.isRecurring = true) (hw : s'.Widens s created)
    (hstart : Instant.first ≤ s'.effectiveStart created) (htime : time ≤ Instant.last)
    (hF : ∀ k ∈ [s, s'], ∀ r, k.recurrence? { zone, limit } created = some r → r.Sees F time)
    (hactive : s.isActive { zone, limit } created time = true) :
    ∃ r', s'.recurrence? { zone, limit } created = some r' ∧
      (s'.isActive { zone, limit } created time = true ↔
        (r'.lookBack F time).encard ≤ limit) := by
  obtain ⟨r, hr⟩ := exists_recurrence?_of_isActive hs hactive
  obtain ⟨r', hr', hwide⟩ := hw.recurrence? hr
  have hrstart' : r'.start = s'.effectiveStart created := by
    obtain ⟨_, _, _, _, rfl⟩ := recurrence?_eq_some_iff.1 hr'
    rfl
  obtain ⟨hle, hend, hopen⟩ := (isActive_of_recurrence? hr).1 hactive
  have hfirst' : Instant.first ≤ r'.start := hrstart' ▸ hstart
  have hfirst : Instant.first ≤ r.start := hfirst'.trans hwide.start
  have hfired : (r.lookBack F time).Nonempty :=
    (((hF s (by simp) r hr).isSome_openAt?_iff hfirst htime).1 hopen).1
  refine ⟨r', hr', ?_⟩
  rw [isActive_of_recurrence? hr', (hF s' (by simp) r' hr').isSome_openAt?_iff hfirst' htime]
  constructor
  · rintro ⟨_, _, _, hfew⟩
    exact hfew
  · intro hfew
    refine ⟨hwide.start.trans hle, ?_, hfired.mono (hwide.lookBack_subset htime), hfew⟩
    intro stop' hstop'
    obtain ⟨stop, hstop, hlater⟩ := hw.stop stop' hstop'
    exact (hend stop hstop).trans_le hlater

def longMornings : Schedule :=
  { weekdayMornings with
    startsAt := some ⟨.ofYear 2019, false, by decide⟩
    seconds := some 7200 }

theorem recurrence?_longMornings {limit : Nat} :
    longMornings.recurrence? { zone := .utc, limit } created =
      some ⟨weekdayMorningTimes.firingsWhile .utc, 7200, .ofYear 2019⟩ :=
  recurrence?_eq_some_iff.2
    ⟨_, 7200, expression?_weekdayMornings, by decide, rfl⟩

theorem isActive_longMornings :
    longMornings.Widens weekdayMornings (.ofYear 2023) ∧
      weekdayMornings.isActive { zone := .utc, limit := 7200 } (.ofYear 2023)
        (.ofSeconds 1704187800) = true ∧
      longMornings.isActive { zone := .utc, limit := 7200 } (.ofYear 2023)
        (.ofSeconds 1704187800) = true := by
  have hw : longMornings.Widens weekdayMornings (.ofYear 2023) :=
    ⟨rfl, rfl, ⟨7200, by decide, by decide⟩, by decide, by decide⟩
  have hactive : weekdayMornings.isActive { zone := .utc, limit := 7200 } (.ofYear 2023)
      (.ofSeconds 1704187800) = true := by decide
  have hwhole : ∀ t ∈ weekdayMorningTimes.universalFirings, t.Whole := fun t ht => ht.1
  have hsees : ∀ k ∈ [weekdayMornings, longMornings], ∀ r,
      k.recurrence? { zone := .utc, limit := 7200 } (.ofYear 2023) = some r →
      r.Sees weekdayMorningTimes.universalFirings (.ofSeconds 1704187800) := by
    intro k hk r hr
    rcases List.mem_pair.1 hk with rfl | rfl
    · exact sees_of_chronological expression?_weekdayMornings
        (chronological_weekdayMorningTimes (by decide)) hr
    · exact sees_of_chronological (s := longMornings) expression?_weekdayMornings
        (chronological_weekdayMorningTimes (by decide)) hr
  obtain ⟨r', hr', hiff⟩ := isActive_widened_iff rfl hw (by decide) (by decide) hsees hactive
  refine ⟨hw, hactive, hiff.2 ?_⟩
  rw [recurrence?_longMornings, Option.some.injEq] at hr'
  subst hr'
  rw [Recurrence.lookBack_eq_openAt (by decide) (by decide)]
  exact Recurrence.encard_openAt_le hwhole

def minutely (seconds : Int64) : Schedule :=
  ⟨⟨1⟩, none, none, some "* * * * *", some seconds, none, .enable⟩

def twentyPast (seconds : Int64) : Schedule :=
  ⟨⟨1⟩, none, none, some "20 * * * *", some seconds, some "Europe/Berlin", .enable⟩

/-- Where one firing is looked at, a look-back of two minutes goes through two. Where the clocks of
Berlin are put back, the longer look-back begins in the first pass of the hour and goes by the
clock, past all of the second. -/
theorem widened_not_active :
    ((minutely 120).Widens (minutely 60) (.ofYear 2023) ∧
      (minutely 60).isActive { zone := .utc, limit := 1 } (.ofYear 2023) (.ofSeconds 1704196830) =
        true ∧
      (minutely 120).isActive { zone := .utc, limit := 1 } (.ofYear 2023) (.ofSeconds 1704196830) =
        false) ∧
    (twentyPast 2400).Widens (twentyPast 1200) (.ofYear 2023) ∧
      (twentyPast 1200).isActive { zone := .utc, limit := 100 } (.ofYear 2023)
        (.ofSeconds 1729992600) = true ∧
      (twentyPast 2400).isActive { zone := .utc, limit := 100 } (.ofYear 2023)
        (.ofSeconds 1729992600) = false := by
  refine ⟨⟨⟨rfl, rfl, ⟨120, by decide, by decide⟩, le_rfl, by decide⟩, by decide, by decide⟩,
    ⟨rfl, rfl, ⟨2400, by decide, by decide⟩, le_rfl, by decide⟩, by decide +kernel,
    by decide +kernel⟩

end Schedule

end FeatureFlags
