import FeatureFlags.Proofs.Timeline.Cap
import FeatureFlags.Proofs.Timeline.History

namespace FeatureFlags.Timeline

open Time

variable {events : List (Event Instant)} {start stop stop' : Instant} {w : Window} {s : Schedule}
  {r : Recurrence} {e : Event Instant} {p : Instant}

namespace Window

def endingAt (w : Window) (stop : Instant) : Window := { w with stop }

def within (w : Window) (events : List (Event Instant)) : List (Event Instant) :=
  events.filter fun e => w.inside e.time

theorem within_eq_nil_iff :
    w.within events = [] ↔ ∀ e ∈ events, w.start < e.time → w.stop ≤ e.time := by
  simp only [within, List.filter_eq_nil_iff, inside_iff, not_and, not_lt]

theorem within_append (events events' : List (Event Instant)) :
    w.within (events ++ events') = w.within events ++ w.within events' :=
  List.filter_append _ _

theorem within_cons (e : Event Instant) (events : List (Event Instant)) :
    w.within (e :: events) = w.within [e] ++ w.within events :=
  within_append [e] events

theorem within_flatMap {α : Type} (f : α → List (Event Instant)) (l : List α) :
    w.within (l.flatMap f) = l.flatMap fun a => w.within (f a) :=
  List.filter_flatMap

theorem lt_hi_endingAt_iff (hle : w.stop ≤ stop) (hp : p < w.stop) :
    p < (w.endingAt stop).hi s ↔ p < w.hi s := by
  rw [lt_hi_iff, lt_hi_iff]
  exact and_congr_left fun _ => ⟨fun _ => hp, fun _ => hp.trans_le hle⟩

theorem hi_endingAt_cases (hle : w.stop ≤ stop) :
    w.hi s < w.stop ∧ (w.endingAt stop).hi s = w.hi s ∨
      w.hi s = w.stop ∧ w.stop ≤ (w.endingAt stop).hi s := by
  rcases (hi_le_stop (w := w) (s := s)).lt_or_eq with hlt | heq
  · refine .inl ⟨hlt, le_antisymm ?_ ?_⟩
    · exact not_lt.1 fun h => lt_irrefl _ ((lt_hi_endingAt_iff hle hlt).1 h)
    · exact not_lt.1 fun h => lt_irrefl _ ((lt_hi_endingAt_iff hle (h.trans hlt)).2 h)
  · refine .inr ⟨heq, not_lt.1 fun h => lt_irrefl _ ((lt_hi_endingAt_iff hle h).2 ?_)⟩
    rwa [heq]

theorem within_closing_of_late {v : Window} {bound : Instant}
    (hlate : ∀ time ∈ r.end? p, w.stop ≤ time) : w.within (v.closing r bound p) = [] := by
  rw [within_eq_nil_iff]
  intro e he _
  obtain ⟨time, htime, _, rfl⟩ := mem_closing.1 he
  exact hlate time htime

theorem within_closing (hle : w.stop ≤ stop) :
    w.within ((w.endingAt stop).closing r ((w.endingAt stop).hi s) p) =
      w.within (w.closing r (w.hi s) p) := by
  by_cases hlate : ∀ time ∈ r.end? p, w.stop ≤ time
  · rw [within_closing_of_late hlate, within_closing_of_late hlate]
  · push Not at hlate
    obtain ⟨time, hend, htime⟩ := hlate
    have hiff := lt_hi_endingAt_iff (s := s) hle htime
    simp only [closing, Option.mem_def.1 hend, Option.filter, hiff]
    rfl

theorem within_carriedOver (hle : w.stop ≤ stop) (lo : Instant) :
    w.within ((w.endingAt stop).carriedOver r lo ((w.endingAt stop).hi s)) =
      w.within (w.carriedOver r lo (w.hi s)) := by
  have heq : (w.endingAt stop).carriedOver r lo ((w.endingAt stop).hi s) =
      if lo = w.start then (r.openAt? lo w.reading.limit).toList.flatMap
        ((w.endingAt stop).closing r ((w.endingAt stop).hi s)) else [] := rfl
  rw [heq, carriedOver]
  split
  · simp only [within_flatMap, within_closing hle]
  · rfl

theorem within_cutOff (hle : w.stop ≤ stop) :
    w.within ((w.endingAt stop).cutOff r ((w.endingAt stop).hi s)) =
      w.within (w.cutOff r (w.hi s)) := by
  rcases hi_endingAt_cases (s := s) hle with ⟨hlt, heq⟩ | ⟨heq, hlate⟩
  · have hlt' : w.hi s < (w.endingAt stop).stop := hlt.trans_le hle
    rw [heq]
    simp only [cutOff, hlt, hlt', true_and]
    rfl
  · have hnone : w.cutOff r (w.hi s) = [] := by simp [cutOff, heq]
    rw [hnone, within_eq_nil_iff.2 fun e he _ => (mem_cutOff.1 he).1 ▸ hlate]
    rfl

/-- The firings that a window tells, whatever its end, come one after another from its start on. -/
def Orderly (w : Window) (r : Recurrence) : Prop :=
  ∃ l : List Instant, l.Pairwise (· < ·) ∧ (∀ p ∈ l, w.after r < p) ∧
    ∀ keep, r.firingsAfter (w.after r) keep w.reading.limit = l.takeWhile keep

theorem le_after (w : Window) (r : Recurrence) : w.start ≤ w.after r := by
  rw [after]
  split
  · next hlt => exact Instant.le_pred_iff.2 hlt
  · exact start_le_lo

theorem orderly_of_chronological {e : Cron.Expression} {F : Set Instant}
    (hw : w.reading.firings = Cron.Expression.firingsWhile)
    (hr : s.recurrence? w.reading w.created = some r) (he : s.expression? = some e)
    (hF : e.Chronological (s.zone w.reading.zone) F w.start) : w.Orderly r := by
  have hfirst := hF (w.after r) (le_after w r) w.reading.limit
  obtain ⟨_, _, he', _, rfl⟩ := Schedule.recurrence?_eq_some_iff.1 hr
  rw [he, Option.some.injEq] at he'
  subst he'
  refine ⟨_, hfirst.sorted, fun p hp => (hfirst.mem p hp).2, fun keep => ?_⟩
  rw [hw]
  exact Cron.Expression.firingsWhile_eq_takeWhile

theorem Orderly.told_endingAt (h : w.Orderly r) (hle : w.stop ≤ stop) :
    ((w.endingAt stop).told s r).filter (· < w.stop) = w.told s r := by
  obtain ⟨l, hsorted, _, hl⟩ := h
  have hearlier (hi : Instant) (t u : Instant) (htu : t < u) (hu : decide (u < hi) = true) :
      decide (t < hi) = true := by
    rw [decide_eq_true_eq] at *
    exact htu.trans hu
  have htold : (w.endingAt stop).told s r = l.takeWhile (· < (w.endingAt stop).hi s) := hl _
  rw [htold, told, hl, Cron.FirstOf.takeWhile_eq_filter hsorted (hearlier _),
    Cron.FirstOf.takeWhile_eq_filter hsorted (hearlier _), List.filter_filter]
  apply List.filter_congr
  intro p _
  rw [Bool.eq_iff_iff, Bool.and_eq_true, decide_eq_true_eq, decide_eq_true_eq, decide_eq_true_eq]
  constructor
  · rintro ⟨hp, hhi⟩
    exact (lt_hi_endingAt_iff hle hp).1 hhi
  · intro hhi
    have hp := hhi.trans_le hi_le_stop
    exact ⟨hp, (lt_hi_endingAt_iff hle hp).2 hhi⟩

theorem within_occurrence {on : Bool} (hle : w.stop ≤ stop) (p : Instant) :
    w.within (⟨p, on⟩ :: (w.endingAt stop).closing r ((w.endingAt stop).hi s) p) =
      if p < w.stop then w.within (⟨p, on⟩ :: w.closing r (w.hi s) p) else [] := by
  rw [within_cons, within_cons ⟨p, on⟩ (w.closing r (w.hi s) p)]
  split
  · rw [within_closing hle]
  · next hp =>
    have hlate : ∀ time ∈ r.end? p, w.stop ≤ time :=
      fun time htime => (not_lt.1 hp).trans (Recurrence.le_of_end? htime)
    rw [within_closing_of_late hlate, List.append_nil, within_eq_nil_iff]
    intro e he _
    rw [List.mem_singleton.1 he]
    exact not_lt.1 hp

theorem Orderly.within_occurrences {on : Bool} (h : w.Orderly r) (hle : w.stop ≤ stop) :
    w.within (((w.endingAt stop).told s r).flatMap fun p =>
        ⟨p, on⟩ :: (w.endingAt stop).closing r ((w.endingAt stop).hi s) p) =
      w.within ((w.told s r).flatMap fun p => ⟨p, on⟩ :: w.closing r (w.hi s) p) := by
  rw [within_flatMap, within_flatMap, ← h.told_endingAt hle]
  simp only [within_occurrence hle]
  induction (w.endingAt stop).told s r with
  | nil => rfl
  | cons p l ih =>
    rw [List.flatMap_cons, ih]
    by_cases hp : p < w.stop
    · rw [if_pos hp, List.filter_cons_of_pos (by simpa using hp), List.flatMap_cons]
    · rw [if_neg hp, List.filter_cons_of_neg (by simpa using hp), List.nil_append]

theorem Orderly.lo_le_of_told (h : w.Orderly r) (hp : p ∈ w.told s r) : w.lo r ≤ p := by
  obtain ⟨l, _, hafter, hl⟩ := h
  rw [told, hl] at hp
  obtain ⟨hstart, hrstart⟩ := after_lt_iff.1 (hafter p ((List.takeWhile_sublist _).subset hp))
  rw [lo_eq_max]
  exact max_le hstart.le hrstart

theorem Orderly.lo_le (h : w.Orderly r) (hr : s.recurrence? w.reading w.created = some r)
    (he : e ∈ w.expand s) : w.lo r ≤ e.time := by
  obtain ⟨hlt, htells⟩ := (mem_expand_iff hr).1 he
  cases htells with
  | carriedOver hlo hp htime => exact hlo.le.trans (Recurrence.lt_of_openAt? hp htime).le
  | firing hp => exact h.lo_le_of_told hp
  | closing hp htime => exact (h.lo_le_of_told hp).trans (Recurrence.le_of_end? htime)
  | cutOff => exact hlt.le

theorem within_end (hle : w.stop ≤ stop) (t : Option Instant) (b : Bool) :
    w.within ((t.filter (w.endingAt stop).inside).map fun t => ⟨t, b⟩).toList =
      w.within ((t.filter w.inside).map fun t => (⟨t, b⟩ : Event Instant)).toList := by
  cases t with
  | none => rfl
  | some t =>
    by_cases ht : w.start < t ∧ t < w.stop
    · have hin : w.inside t = true := inside_iff.2 ht
      have hin' : (w.endingAt stop).inside t = true := inside_iff.2 ⟨ht.1, ht.2.trans_le hle⟩
      rw [Option.filter, Option.filter, if_pos hin, if_pos hin']
    · have hout : w.inside t = false := Bool.eq_false_iff.2 fun h => ht (inside_iff.1 h)
      rw [Option.filter, Option.filter, hout]
      split
      · simp [within, hout]
      · rfl

theorem within_oneShot (hle : w.stop ≤ stop) :
    w.within ((w.endingAt stop).oneShot s) = w.within (w.oneShot s) := by
  rw [oneShot, oneShot]
  split
  · rfl
  · rw [within_append, within_append, within_end hle, within_end hle]
    rfl

theorem within_expand (h : ∀ r, s.recurrence? w.reading w.created = some r → w.Orderly r)
    (hle : w.stop ≤ stop) : w.within ((w.endingAt stop).expand s) = w.within (w.expand s) := by
  cases hs : s.isRecurring with
  | false =>
    rw [expand, expand, hs, if_neg Bool.false_ne_true, if_neg Bool.false_ne_true]
    exact within_oneShot hle
  | true =>
    cases hr : s.recurrence? w.reading w.created with
    | none => rw [expand_of_malformed (w := w.endingAt stop) hs hr, expand_of_malformed hs hr]
    | some r =>
      have horderly := h r hr
      by_cases hlt : w.lo r < w.stop
      · have hiff : (w.endingAt stop).hi s ≤ w.lo r ↔ w.hi s ≤ w.lo r := by
          rw [← not_lt, ← not_lt, lt_hi_endingAt_iff hle hlt]
        have hlo : (w.endingAt stop).lo r = w.lo r := rfl
        rw [expand_eq (w := w.endingAt stop) hr, expand_eq hr, hlo]
        simp only [hiff]
        split
        · rfl
        · rw [within_append, within_append, within_append, within_append, within_carriedOver hle,
            horderly.within_occurrences hle, within_cutOff hle]
      · -- The schedule begins after the shorter window.
        have hnone : w.expand s = [] := by
          rw [expand_eq hr, if_pos (hi_le_stop.trans (not_lt.1 hlt))]
        rw [hnone, within_eq_nil_iff.2 fun e he _ => ?_]
        · rfl
        · exact (not_lt.1 hlt).trans (Orderly.lo_le (w := w.endingAt stop) horderly hr he)

end Window

variable {reading : Reading} {f : Feature}

theorem filter_inner (hle : stop ≤ stop')
    (h : ∀ s ∈ f.schedules, ∀ r, s.recurrence? reading f.created = some r →
      (window reading f start stop).Orderly r) :
    (window reading f start stop).within (inner reading f start stop') =
      (window reading f start stop).within (inner reading f start stop) := by
  have hchanges : (window reading f start stop).within
        ((window reading f start stop').changes f.schedules) =
      (window reading f start stop).within ((window reading f start stop).changes f.schedules) := by
    rw [Window.changes, Window.changes, Window.within_flatMap, Window.within_flatMap]
    exact List.flatMap_congr fun s hs => Window.within_expand (h s hs) hle
  rw [inner, inner]
  split
  · rw [Window.within, filter_sort, Window.within, filter_sort]
    exact congrArg sort hchanges
  · rfl

theorem within_ends {w : Window} {first last : Event Instant} {before after : List (Event Instant)}
    (hfirst : first.time ≤ w.start) (hlast : w.stop ≤ last.time) :
    w.within (before ++ first :: after ++ [last]) = w.within (before ++ after) := by
  have hfirst' : w.within [first] = [] := Window.within_eq_nil_iff.2 fun e he hlt =>
    absurd hlt (not_lt.2 (List.mem_singleton.1 he ▸ hfirst))
  have hlast' : w.within [last] = [] := Window.within_eq_nil_iff.2 fun e he _ =>
    List.mem_singleton.1 he ▸ hlast
  rw [Window.within_append, Window.within_append, Window.within_cons, hfirst', hlast',
    List.nil_append, List.append_nil, Window.within_append]

/-- The events inside a window are the same, and in the same order, in the timeline of a window that
goes on longer, where the firings of each schedule come in order of time. -/
theorem build_extended (config : Config) (f : Feature) (timezone : Option String)
    (hstop : start ≤ stop) (hle : stop ≤ stop')
    (hF : ∀ s ∈ f.schedules, ∀ e, s.expression? = some e →
      ∃ F, e.Chronological (s.zone (config.reading timezone).zone) F start) :
    ∃ events events', build config f start stop timezone = .ok events ∧
      build config f start stop' timezone = .ok events' ∧
      events'.filter (fun e => start < e.time && e.time < stop) =
        events.filter fun e => start < e.time && e.time < stop := by
  let w := window (config.reading timezone) f start stop
  have horderly : ∀ s ∈ f.schedules, ∀ r,
      s.recurrence? (config.reading timezone) f.created = some r → w.Orderly r := by
    intro s hs r hr
    obtain ⟨e, _, he, _⟩ := Schedule.recurrence?_eq_some_iff.1 hr
    obtain ⟨F, hF⟩ := hF s hs e he
    exact Window.orderly_of_chronological rfl hr he hF
  obtain ⟨before, after, hbuild, hinner, _⟩ := build_eq_inner config f timezone hstop
  obtain ⟨before', after', hbuild', hinner', _⟩ :=
    build_eq_inner config f timezone (hstop.trans hle)
  refine ⟨_, _, hbuild, hbuild', ?_⟩
  change w.within _ = w.within _
  rw [within_ends le_rfl hle, within_ends le_rfl le_rfl, hinner, hinner']
  exact filter_inner hle horderly

theorem build_officeHours_extended :
    Instant.ofSeconds 1704153600 ≤ .ofSeconds 1704187800 ∧
      Instant.ofSeconds 1704187800 ≤ .ofSeconds 1704240000 ∧
      (∀ s ∈ officeHours.schedules, ∀ e, s.expression? = some e →
        ∃ F, e.Chronological (s.zone (Config.default.reading none).zone) F
          (.ofSeconds 1704153600)) ∧
      ∃ events events',
        build .default officeHours (.ofSeconds 1704153600) (.ofSeconds 1704187800) none =
          .ok events ∧
        build .default officeHours (.ofSeconds 1704153600) (.ofSeconds 1704240000) none =
          .ok events' ∧
        events'.filter (fun e => Instant.ofSeconds 1704153600 < e.time &&
            e.time < .ofSeconds 1704187800) =
          events.filter fun e => Instant.ofSeconds 1704153600 < e.time &&
            e.time < .ofSeconds 1704187800 := by
  have hstop : Instant.ofSeconds 1704153600 ≤ .ofSeconds 1704187800 := by decide
  have hle : Instant.ofSeconds 1704187800 ≤ .ofSeconds 1704240000 := by decide
  have hF : ∀ s ∈ officeHours.schedules, ∀ e, s.expression? = some e →
      ∃ F, e.Chronological (s.zone (Config.default.reading none).zone) F
        (.ofSeconds 1704153600) := by
    intro s hs e he
    rcases List.mem_pair.1 hs with rfl | rfl
    · rw [Schedule.expression?_weekdayMornings, Option.some.injEq] at he
      subst he
      exact ⟨_, Schedule.chronological_weekdayMorningTimes (by decide)⟩
    · cases he
  exact ⟨hstop, hle, hF, build_extended .default officeHours none hstop hle hF⟩

end FeatureFlags.Timeline
