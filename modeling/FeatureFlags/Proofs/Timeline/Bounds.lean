import FeatureFlags.Proofs.Cron.ClockOrder
import FeatureFlags.Proofs.Timeline.Expansion

namespace FeatureFlags.Timeline

open Time

variable {config : Config} {f : Feature} {start stop : Instant} {timezone : Option String}
  {w : Window} {e : Event Instant}

def Window.firings (w : Window) (s : Schedule) : List Instant :=
  match s.recurrence? w.reading w.created with
  | some r => if w.hi s ≤ w.lo r then [] else w.told s r
  | none => []

namespace Window

variable {s : Schedule} {r : Recurrence} {x : Cron.Expression} {p : Instant}

theorem firings_eq (hr : s.recurrence? w.reading w.created = some r) (hlt : w.lo r < w.hi s) :
    w.firings s = w.told s r := by
  rw [firings, hr]
  exact if_neg (not_le.2 hlt)

/-- What a walk by the zone's clock comes to before `p`. -/
def shownBefore (w : Window) (s : Schedule) (r : Recurrence) (x : Cron.Expression) (p : Instant) :
    Set Instant :=
  {u | x.Ahead (s.zone w.reading.zone) (w.after r) u ∧
    Cron.Expression.ShownBefore (s.zone w.reading.zone) u p}

/-- A window tells the seconds ahead by the zone's clock, until the first that is not before the end
of its stretch and as far as the search goes. -/
theorem mem_firings_iff (hw : w.reading.firings = Cron.Expression.firingsWhile)
    (hx : s.expression? = some x) (hr : s.recurrence? w.reading w.created = some r)
    (hz : (s.zone w.reading.zone).Steady) :
    p ∈ w.firings s ↔ w.lo r < w.hi s ∧ x.Ahead (s.zone w.reading.zone) (w.after r) p ∧
      p < w.hi s ∧ (∀ u ∈ w.shownBefore s r x p, u < w.hi s) ∧
      (w.shownBefore s r x p).encard < w.reading.limit := by
  by_cases hlt : w.lo r < w.hi s
  · obtain ⟨_, _, hparse⟩ := Schedule.expression?_eq_some_iff.1 hx
    have hfirings : r.firingsAfter = x.firingsWhile (s.zone w.reading.zone) := by
      obtain ⟨x', _, hx', _, rfl⟩ := Schedule.recurrence?_eq_some_iff.1 hr
      rw [Option.some.inj (hx.symm.trans hx'), hw]
    rw [firings_eq hr hlt, told, hfirings,
      Cron.Expression.mem_firingsWhile_iff (Cron.Expression.parse_years hparse) hz]
    simp only [hlt, true_and, decide_eq_true_eq, shownBefore, Set.mem_ofPred_eq, and_imp]
  · simp [firings, hr, hlt, not_lt.1 hlt]

/-- No firing before the start is told just when the walk stops before every second that clocks, put
back past the start, still have to show. -/
theorem start_le_firings_iff (hw : w.reading.firings = Cron.Expression.firingsWhile)
    (hx : s.expression? = some x) (hr : s.recurrence? w.reading w.created = some r)
    (hz : (s.zone w.reading.zone).Steady) :
    (∀ p ∈ w.firings s, w.start ≤ p) ↔ w.lo r < w.hi s → ∀ p,
      x.Ahead (s.zone w.reading.zone) (w.after r) p → p < w.start →
        (∃ u ∈ w.shownBefore s r x p, w.hi s ≤ u) ∨
          w.reading.limit ≤ (w.shownBefore s r x p).encard := by
  simp only [mem_firings_iff hw hx hr hz]
  constructor
  · intro h hlt p hp hbefore
    by_contra hnot
    simp only [not_or, not_exists, not_and, not_le] at hnot
    have hends : p < w.hi s := hbefore.trans (start_le_lo.trans_lt hlt)
    exact absurd (h p ⟨hlt, hp, hends, hnot⟩) (not_le.2 hbefore)
  · rintro h p ⟨hlt, hp, _, hall, hfew⟩
    by_contra hbefore
    rcases h hlt p hp (not_le.1 hbefore) with ⟨u, hu, hge⟩ | hmany
    · exact absurd (hall u hu) (not_lt.2 hge)
    · exact absurd hfew (not_lt.2 hmany)

theorem start_le_expand_iff :
    (∀ e ∈ w.expand s, w.start ≤ e.time) ↔ ∀ p ∈ w.firings s, w.start ≤ p := by
  cases hs : s.isRecurring with
  | false =>
    have hnone : s.recurrence? w.reading w.created = none := Schedule.recurrence?_of_oneShot hs
    simp only [firings, hnone, List.not_mem_nil, false_imp_iff, implies_true, iff_true]
    exact fun e he => (inside_iff.1 ((mem_expand_oneShot_iff hs).1 he).2.1).1.le
  | true =>
    cases hr : s.recurrence? w.reading w.created with
    | none => simp [expand_of_malformed hs hr, firings, hr]
    | some r =>
      by_cases hlt : w.lo r < w.hi s
      · rw [firings_eq hr hlt]
        constructor
        · intro h p hp
          exact h _ ((mem_expand_iff hr).2 ⟨hlt, .firing hp⟩)
        · intro h e he
          rcases ((mem_expand_iff hr).1 he).2.start_lt_or hlt with hstart | ⟨p, hp, hle⟩
          · exact hstart.le
          · exact (h p hp).trans hle
      · simp [mem_expand_iff hr, firings, hr, hlt, not_lt.1 hlt]

end Window

theorem start_le_unsorted_iff {reading : Reading} (hle : start ≤ stop) :
    (∀ e ∈ unsorted reading f start stop, start ≤ e.time) ↔
      ∀ s ∈ f.schedules, ∀ p ∈ (window reading f start stop).firings s, start ≤ p := by
  have hexpand (s : Schedule) :=
    Window.start_le_expand_iff (w := window reading f start stop) (s := s)
  constructor
  · intro h s hs
    exact (hexpand s).1 fun e he => h e (mem_unsorted.2 (.inr (.inl ⟨s, hs, he⟩)))
  · intro h e he
    rcases mem_unsorted.1 he with rfl | ⟨s, hs, he⟩ | rfl
    · exact le_rfl
    · exact (hexpand s).2 (h s hs) e he
    · exact hle

theorem unsorted_le_stop (hle : start ≤ stop)
    (he : e ∈ unsorted (config.reading timezone) f start stop) : e.time ≤ stop := by
  rcases mem_unsorted.1 he with rfl | ⟨s, _, he⟩ | rfl
  · exact hle
  · exact (Window.expand_lt_stop rfl he).le
  · exact le_rfl

theorem bounds_of_pair {b : Bool} (hle : start ≤ stop) :
    let events : List (Event Instant) := [⟨start, b⟩, ⟨stop, b⟩]
    Sorted events ∧ (∀ e ∈ events, e.time ≤ stop) ∧ events.getLast?.map Event.time = some stop ∧
      events.head?.map Event.time = some start ∧ ∀ e ∈ events, start ≤ e.time := by
  simp [Sorted, hle]

/-- On for ten minutes from half past each hour by the clocks of Berlin. -/
def halfHours : Feature :=
  (Feature.boolean ⟨1⟩ ⟨2⟩ "half-hours" ⟨.ofYear 2024, false, by decide⟩).addSchedule
    ⟨⟨3⟩, none, none, some "30 * * * *", some 600, some "Europe/Berlin", .enable⟩

/-- A timeline is in order and ends at the end of its window. It also begins at the start, with no
event before, just when no schedule of the feature tells a firing before the start. -/
theorem build_bounds (config : Config) (f : Feature) (timezone : Option String)
    (hle : start ≤ stop) :
    ∃ events, build config f start stop timezone = .ok events ∧ Sorted events ∧
      (∀ e ∈ events, e.time ≤ stop) ∧ events.getLast?.map Event.time = some stop ∧
      ((events.head?.map Event.time = some start ∧ ∀ e ∈ events, start ≤ e.time) ↔
        (f.enabled = true → ∀ s ∈ f.schedules,
          ∀ p ∈ (window (config.reading timezone) f start stop).firings s, start ≤ p)) := by
  cases hon : f.enabled with
  | false =>
    obtain ⟨hsorted, hstop, hlast, hstart⟩ := bounds_of_pair (b := false) hle
    refine ⟨_, ?_, hsorted, hstop, hlast, by simpa using hstart⟩
    rw [build, ofReading, if_neg (not_lt.2 hle), hon]
    rfl
  | true =>
    by_cases hs : f.schedules = []
    · obtain ⟨hsorted, hstop, hlast, hstart⟩ := bounds_of_pair (b := true) hle
      exact ⟨_, build_of_nil hle hon hs, hsorted, hstop, hlast, by simpa [hs] using hstart⟩
    · have hsorted := sort_sorted (unsorted (config.reading timezone) f start stop)
      have hstop : ∀ e ∈ sort (unsorted (config.reading timezone) f start stop), e.time ≤ stop :=
        fun e he => unsorted_le_stop hle (mem_sort.1 he)
      refine ⟨_, build_eq hle hon hs, hsorted, hstop, ?_, ?_⟩
      · exact hsorted.getLast_time (mem_sort.2 (mem_unsorted.2 (.inr (.inr rfl)))) hstop
      · rw [← start_le_unsorted_iff hle]
        simp only [mem_sort, forall_const]
        refine ⟨And.right, fun h => ⟨?_, h⟩⟩
        exact hsorted.head_time (mem_sort.2 (mem_unsorted.2 (.inl rfl))) fun e he =>
          h e (mem_sort.1 he)

theorem build_halfHours_bounds :
    ∃ events, build .default halfHours (.ofSeconds 1729936800) (.ofSeconds 1729998000) none =
        .ok events ∧ events.head?.map Event.time = some (.ofSeconds 1729936800) ∧
      ∀ e ∈ events, Instant.ofSeconds 1729936800 ≤ e.time := by
  have hle : Instant.ofSeconds 1729936800 ≤ .ofSeconds 1729998000 := by decide
  obtain ⟨events, he, _, _, _, hiff⟩ := build_bounds .default halfHours none hle
  exact ⟨events, he, hiff.2 (by decide +kernel)⟩

/-- On that day the clocks of Berlin show the hour from two on twice. From ten past two in its
second pass on a timeline tells half past two in the first. -/
theorem build_halfHours_before_start :
    ∃ events, build .default halfHours (.ofSeconds 1729991400) (.ofSeconds 1729998000) none =
        .ok events ∧
      ∃ e ∈ events, e.time = .ofSeconds 1729989000 ∧ e.time < .ofSeconds 1729991400 := by
  refine ⟨_, build_eq (by decide) rfl (by decide), ⟨.ofSeconds 1729989000, true⟩, ?_, rfl,
    by decide⟩
  rw [mem_sort, mem_unsorted]
  exact .inr (.inl ⟨_, List.mem_cons_self, by decide +kernel⟩)

end FeatureFlags.Timeline
