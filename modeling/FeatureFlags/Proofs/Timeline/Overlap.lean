import FeatureFlags.Proofs.Timeline.Changes

namespace FeatureFlags

open Time

/-- What a schedule fires at when it is read in universal time. -/
def Schedule.universalFirings (s : Schedule) : Set Instant :=
  {t | ∃ e, s.expression? = some e ∧ t ∈ e.universalFirings}

theorem Schedule.universalFirings_eq {s : Schedule} {e : Cron.Expression}
    (he : s.expression? = some e) : s.universalFirings = e.universalFirings := by
  ext t
  simp only [universalFirings, he, Option.some.injEq, exists_eq_left', Set.mem_ofPred_eq]

namespace Timeline

namespace Window

open Cron

variable {w : Window} {s : Schedule} {r : Recurrence} {e : Event Instant} {t : Instant}

/-- A schedule that recurs is read in universal time, and the window has room for its firings. -/
structure Universal (w : Window) (s : Schedule) : Prop where
  firings : w.reading.firings = Expression.firingsWhile
  zone : s.isRecurring = true → s.zone w.reading.zone = .utc
  room : ∀ r, s.recurrence? w.reading w.created = some r →
    (w.due s r s.universalFirings).encard ≤ w.reading.limit

theorem Universal.recurrence (h : w.Universal s)
    (hr : s.recurrence? w.reading w.created = some r) :
    ∃ x, s.expression? = some x ∧ x.times.years.Within .year ∧
      r.firingsAfter = x.firingsWhile .utc := by
  obtain ⟨x, _, hx, _, rfl⟩ := Schedule.recurrence?_eq_some_iff.1 hr
  obtain ⟨_, _, hparse⟩ := Schedule.expression?_eq_some_iff.1 hx
  refine ⟨x, hx, Expression.parse_years hparse, ?_⟩
  simp only [h.firings, h.zone (Schedule.isRecurring_of_expression? hx)]

/-- Nothing is left out, or nothing is told: before year 0 no firing is found. -/
theorem Universal.covers_or_silent (h : w.Universal s) :
    w.Covers s s.universalFirings ∨ ∃ r, s.recurrence? w.reading w.created = some r ∧
      w.told s r = [] ∧ (w.lo r = w.start → r.openAt? w.start w.reading.limit = none) := by
  cases hr : s.recurrence? w.reading w.created with
  | none =>
    refine .inl ⟨fun r hr' => ?_, h.room⟩
    rw [hr] at hr'
    cases hr'
  | some r =>
    obtain ⟨x, hx, hyears, hfirings⟩ := h.recurrence hr
    by_cases hyear : Instant.ofYear 0 ≤ ⟨(w.after r).nanos + 1000000000⟩
    · refine .inl ⟨fun r' hr' => ?_, h.room⟩
      rw [hr] at hr'
      cases hr'
      rw [Schedule.universalFirings_eq hx, hfirings]
      exact fun keep n => ⟨_, Expression.firstOf_firings_utc hyears hyear,
        Expression.firingsWhile_eq_takeWhile⟩
    · have hsilent {after : Instant} (hafter : after ≤ w.after r) (keep : Instant → Bool)
          (n : Nat) :
          r.firingsAfter after keep n = [] := by
        rw [hfirings, Expression.firingsWhile_eq_takeWhile, Expression.firings_utc_eq_nil]
        · rfl
        · simp only [not_le, Instant.lt_iff, Instant.le_iff] at *
          omega
      refine .inr ⟨r, rfl, hsilent le_rfl _ _, fun hlo => ?_⟩
      have hstart : r.start ≤ w.start := by
        rw [lo_eq_max] at hlo
        exact max_eq_left_iff.1 hlo
      have hafter : w.after r = w.start := by
        rw [after, hlo, if_neg (lt_irrefl _)]
      rw [Recurrence.openAt?_eq_filter, Enumeration.latest?,
        hsilent ((Recurrence.horizon_le hstart).trans hafter.ge)]
      rfl

theorem eq_cutOff_of_silent (hr : s.recurrence? w.reading w.created = some r)
    (htold : w.told s r = [])
    (hopen : w.lo r = w.start → r.openAt? w.start w.reading.limit = none) (he : e ∈ w.expand s) :
    e = ⟨w.hi s, w.baseline⟩ ∧ w.hi s < w.stop := by
  obtain ⟨_, htells⟩ := (mem_expand_iff hr).1 he
  cases htells with
  | carriedOver hlo hp =>
    rw [hopen hlo] at hp
    cases hp
  | firing hp =>
    rw [htold] at hp
    cases hp
  | closing hp =>
    rw [htold] at hp
    cases hp
  | cutOff hlt => exact ⟨rfl, hlt⟩

theorem Universal.start_lt (h : w.Universal s) (he : e ∈ w.expand s) : w.start < e.time := by
  refine start_lt_expand (fun r hr p hp => ?_) he
  rcases h.covers_or_silent with hcovers | ⟨r', hr', htold, _⟩
  · exact ((hcovers.mem_told_iff hr).1 hp).2.1
  · rw [hr] at hr'
    cases hr'
    rw [htold] at hp
    cases hp

theorem Universal.word (h : w.Universal s) (he : lastAt (w.expand s) t = some e)
    (hstart : w.start < t) (hstop : t < w.stop) :
    w.Word s s.universalFirings t e.enabled := by
  rcases h.covers_or_silent with hcovers | ⟨r, hr, htold, hopen⟩
  · exact hcovers.word he hstart hstop
  · obtain ⟨hmem, rfl⟩ := lastAt_mem he
    obtain ⟨rfl, hlt⟩ := eq_cutOff_of_silent hr htold hopen hmem
    refine ⟨fun hopens => ?_, fun _ => rfl⟩
    have hend := ((Schedule.opens_iff_of_recurrence? hr).1 hopens).2.2
    exact absurd (lt_hi_iff.2 ⟨hlt, hend⟩) (lt_irrefl _)

end Window

variable {config : Config} {f : Feature} {start stop : Instant} {timezone : Option String}

/-- In a timeline the last event of a time tells the state, at the ends of the window always, and
inside just when the last-listed schedule that speaks has the right word. -/
theorem build_tells_state_iff (hon : f.enabled = true) (hle : start ≤ stop)
    (hzone : ∀ s ∈ f.schedules, s.isRecurring = true →
      s.zone (config.reading timezone).zone = .utc)
    (hroom : ∀ s ∈ f.schedules, ∀ r,
      s.recurrence? (config.reading timezone) f.created = some r →
        ((window (config.reading timezone) f start stop).due s r s.universalFirings).encard ≤
          config.maxOccurrences.toNat) :
    ∃ events, build config f start stop timezone = .ok events ∧ ∀ e ∈ events,
      ((lastAt events e.time).map Event.enabled =
          some (f.stateAt (config.reading timezone) e.time) ↔
        (start < e.time → e.time < stop → ∀ k,
          (window (config.reading timezone) f start stop).speaker? f.schedules e.time = some k →
            (window (config.reading timezone) f start stop).Word k k.universalFirings e.time
              (f.stateAt (config.reading timezone) e.time))) := by
  have huniversal : ∀ s ∈ f.schedules,
      (window (config.reading timezone) f start stop).Universal s :=
    fun s hs => ⟨rfl, hzone s hs, hroom s hs⟩
  by_cases hs : f.schedules = []
  · refine ⟨_, build_of_nil hle hon hs, fun e he => ?_⟩
    have hstate : f.stateAt (config.reading timezone) e.time = true := by
      simp [Feature.stateAt, hon, hs]
    obtain ⟨e', he'⟩ := exists_lastAt he
    rw [he', hstate, Option.map_some, enabled_of_lastAt_pair he', hs]
    simp [Window.speaker?]
  · refine ⟨_, build_eq hle hon hs, fun e he => ?_⟩
    obtain ⟨e', he'⟩ := exists_lastAt (mem_sort.1 he)
    rw [lastAt_sort, he', Option.map_some, Option.some.injEq]
    have hafter : ∀ s ∈ f.schedules,
        ∀ e ∈ (window (config.reading timezone) f start stop).expand s, start < e.time :=
      fun s hs _ he => (huniversal s hs).start_lt he
    rcases lastAt_unsorted_cases rfl hafter he' with
      ⟨hends, hstate⟩ | ⟨hstart, hstop, k, hk, hlast⟩
    · exact ⟨fun _ hstart hstop => absurd ⟨hstart, hstop⟩ hends, fun _ => hstate⟩
    · have hword := (huniversal k (Window.speaker?_mem hk)).word hlast hstart hstop
      rw [hk]
      constructor
      · rintro heq _ _ k' hk'
        cases hk'
        exact heq ▸ hword
      · intro hright
        exact hword.unique (hright hstart hstop k rfl)

def overtime : Schedule :=
  .oneShot ⟨4⟩ .enable (some ⟨.ofSeconds 1704187800, false, by decide⟩)
    (some ⟨.ofSeconds 1704191400, false, by decide⟩)

def longTuesday : Feature :=
  ((Feature.boolean ⟨1⟩ ⟨2⟩ "mornings" ⟨.ofYear 2023, false, by decide⟩).addSchedule
    .weekdayMornings).addSchedule overtime

theorem build_longTuesday_overtime :
    ∃ events, build .default longTuesday (.ofSeconds 1704182400) (.ofSeconds 1704196800) none =
        .ok events ∧
      (lastAt events (.ofSeconds 1704187800)).map Event.enabled = some true := by
  have hon : longTuesday.enabled = true := rfl
  have hle : Instant.ofSeconds 1704182400 ≤ .ofSeconds 1704196800 := by decide
  have hzone : ∀ s ∈ longTuesday.schedules, s.isRecurring = true →
      s.zone (Config.default.reading none).zone = .utc := by decide
  have hwhole : ∀ s : Schedule, ∀ t ∈ s.universalFirings, t.Whole := fun s t ⟨_, _, ht⟩ => ht.1
  obtain ⟨events, he, hiff⟩ := build_tells_state_iff hon hle hzone fun s _ r _ =>
    (Window.encard_due_le (hwhole s)).trans (by decide)
  have hmem : (⟨.ofSeconds 1704187800, true⟩ : Event Instant) ∈ events := by
    have hevents := he
    rw [build_eq hle hon (by decide), Except.ok.injEq] at hevents
    rw [← hevents, mem_sort]
    decide
  have hspeaker : (window (Config.default.reading none) longTuesday (.ofSeconds 1704182400)
      (.ofSeconds 1704196800)).speaker? longTuesday.schedules (.ofSeconds 1704187800) =
        some overtime := by decide
  have hstate : longTuesday.stateAt (Config.default.reading none) (.ofSeconds 1704187800) = true :=
    by decide
  have htells := hiff _ hmem
  rw [hstate, hspeaker] at htells
  refine ⟨events, he, htells.2 fun _ _ k hk => ?_⟩
  cases hk
  refine ⟨fun _ => rfl, fun hnot => absurd ?_ hnot⟩
  exact (Schedule.opens_oneShot_iff rfl).2 (by decide)

/-- At ten the morning ends, and the timeline has the feature off although the overtime goes on. -/
theorem build_longTuesday_ten :
    ∃ events, build .default longTuesday (.ofSeconds 1704182400) (.ofSeconds 1704196800) none =
        .ok events ∧
      lastAt events (.ofSeconds 1704189600) = some ⟨.ofSeconds 1704189600, false⟩ ∧
      longTuesday.stateAt (Config.default.reading none) (.ofSeconds 1704189600) = true := by
  refine ⟨_, build_eq (by decide) rfl (by decide), ?_, by decide⟩
  rw [lastAt_sort]
  decide

end Timeline

end FeatureFlags
