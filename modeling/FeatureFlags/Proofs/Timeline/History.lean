import FeatureFlags.Proofs.Timeline.Regular
import Mathlib.Data.List.Find

namespace FeatureFlags

open Time

namespace Feature

variable {f : Feature} {reading : Reading} {s : Schedule} {t u : Instant}

theorem stateAt_eq_baseline (hon : f.enabled = true) (hne : f.schedules ≠ [])
    (hnone : ∀ s ∈ f.schedules, ¬ s.isActive reading f.created t = true) :
    f.stateAt reading t = Schedule.baseline f.schedules := by
  have hfind : f.schedules.reverse.find? (·.isActive reading f.created t) = none :=
    List.find?_eq_none.2 fun s hs => hnone s (List.mem_reverse.1 hs)
  simp [stateAt, hon, hne, hfind]

/-- At an instant the schedule at a position is active, and no schedule after it is. -/
structure Decisive (f : Feature) (reading : Reading) (t : Instant) (i : Nat) (s : Schedule) :
    Prop where
  position : f.schedules[i]? = some s
  active : s.isActive reading f.created t = true
  last : ∀ j s', i < j → f.schedules[j]? = some s' → s'.isActive reading f.created t = false

theorem stateAt_cases (hon : f.enabled = true) (hne : f.schedules ≠ []) (reading : Reading)
    (t : Instant) :
    (∃ i s, f.Decisive reading t i s ∧ f.stateAt reading t = s.action.enables) ∨
      (∀ s ∈ f.schedules, s.isActive reading f.created t = false) ∧
        f.stateAt reading t = Schedule.baseline f.schedules := by
  cases hfind : f.schedules.reverse.find? (·.isActive reading f.created t) with
  | none =>
    have hnone (s : Schedule) (hs : s ∈ f.schedules) : ¬ s.isActive reading f.created t = true :=
      List.find?_eq_none.1 hfind s (List.mem_reverse.2 hs)
    exact .inr ⟨fun s hs => Bool.eq_false_iff.2 (hnone s hs), stateAt_eq_baseline hon hne hnone⟩
  | some s =>
    have hstate : f.stateAt reading t = s.action.enables := by
      simp [stateAt, hon, hne, hfind]
    obtain ⟨hactive, later, earlier, hsplit, hlater⟩ := List.find?_eq_some_iff_append.1 hfind
    have hschedules : f.schedules = earlier.reverse ++ s :: later.reverse := by
      rw [← List.reverse_reverse f.schedules, hsplit]
      simp
    refine .inl ⟨earlier.length, s, ⟨?_, hactive, ?_⟩, hstate⟩
    · simp [hschedules]
    · intro j s' hj hs'
      rw [hschedules, List.getElem?_append_right (by simpa using hj.le), List.length_reverse] at hs'
      obtain ⟨k, hk⟩ : ∃ k, j - earlier.length = k + 1 := ⟨j - earlier.length - 1, by omega⟩
      rw [hk, List.getElem?_cons_succ] at hs'
      simpa using hlater s' (List.mem_reverse.1 (List.mem_of_getElem? hs'))

theorem stateAt_eq_of_active (hon : f.enabled = true) (hs : s ∈ f.schedules)
    (hactive : s.isActive reading f.created t = true)
    (honly : ∀ s' ∈ f.schedules, s'.isActive reading f.created t = true → s' = s) :
    f.stateAt reading t = s.action.enables := by
  rcases f.stateAt_cases hon (List.ne_nil_of_mem hs) reading t with
    ⟨i, s', hs', hstate⟩ | ⟨hnone, _⟩
  · rw [hstate, honly s' (List.mem_of_getElem? hs'.position) hs'.active]
  · cases hactive.symm.trans (hnone s hs)

theorem stateAt_congr (h : ∀ s ∈ f.schedules,
    s.isActive reading f.created t = s.isActive reading f.created u) :
    f.stateAt reading t = f.stateAt reading u := by
  have hfind : f.schedules.reverse.find? (·.isActive reading f.created t) =
      f.schedules.reverse.find? (·.isActive reading f.created u) :=
    List.find?_congr fun s hs => h s (List.mem_reverse.1 hs)
  rw [stateAt, stateAt, hfind]

/-- No windows of different schedules overlap or have an end in common. -/
def Disjoint (f : Feature) (reading : Reading) (F : Schedule → Set Instant) : Prop :=
  f.schedules.Pairwise fun s s' => ∀ v v', s.HasWindow reading f.created (F s) v →
    s'.HasWindow reading f.created (F s') v' → v.Apart v'

theorem Disjoint.apart {F : Schedule → Set Instant} {s' : Schedule} {v v' : Stretch}
    (h : f.Disjoint reading F) (hs : s ∈ f.schedules) (hs' : s' ∈ f.schedules) (hne : s ≠ s')
    (hv : s.HasWindow reading f.created (F s) v)
    (hv' : s'.HasWindow reading f.created (F s') v') : v.Apart v' := by
  have hsymm : Std.Symm fun s s' : Schedule => ∀ v v', s.HasWindow reading f.created (F s) v →
      s'.HasWindow reading f.created (F s') v' → v.Apart v' :=
    ⟨fun _ _ h v v' hv hv' => (h v' v hv' hv).symm⟩
  exact List.Pairwise.forall h hs hs' hne v v' hv hv'

end Feature

namespace Timeline

variable {config : Config} {f : Feature} {start stop t : Instant} {timezone : Option String}
  {reading : Reading} {F : Schedule → Set Instant} {k : Schedule} {e : Event Instant}

theorem word_stateAt (hon : f.enabled = true) (hlast : stop ≤ Instant.last)
    (hregular : ∀ s ∈ f.schedules, (window reading f start stop).Regular s (F s))
    (hdisjoint : f.Disjoint reading F) (hstart : start < e.time) (hstop : e.time < stop)
    (hk : k ∈ f.schedules) (he : e ∈ (window reading f start stop).expand k) :
    (window reading f start stop).Word k (F k) e.time (f.stateAt reading e.time) := by
  have hactive {s : Schedule} (hs : s ∈ f.schedules) :=
    Schedule.isActive_iff_hasWindow ((hregular s hs).foreseen hstart.le hstop.le)
      (hstop.le.trans hlast)
  obtain ⟨v, hv, hend⟩ := (hregular k hk).hasEnd_of_mem_expand hlast he
  have honly : ∀ s ∈ f.schedules, s.isActive reading f.created e.time = true → s = k := by
    intro s hs hsactive
    by_contra hne
    obtain ⟨v', hv', hc⟩ := (hactive hs).1 hsactive
    exact (hdisjoint.apart hk hs (Ne.symm hne) hv hv').not_contains hv.nonempty hend hc
  constructor
  · rintro ⟨v', hv', hv'start⟩
    have hc := Stretch.contains_start hv'.nonempty hv'start
    exact Feature.stateAt_eq_of_active hon hk ((hactive hk).2 ⟨v', hv', hc⟩) honly
  · intro hnot
    refine Feature.stateAt_eq_baseline hon (List.ne_nil_of_mem hk) fun s hs hsactive => ?_
    obtain rfl := honly s hs hsactive
    obtain ⟨v', hv', hc⟩ := (hactive hs).1 hsactive
    rcases hend with hvstart | hvstop
    · exact hnot ⟨v, hv, hvstart⟩
    · exact hnot ⟨v', hv', (hregular s hs).start_of_contains_stop hv hvstop hv' hc⟩

theorem enabled_of_lastAt (hon : f.enabled = true) (hlast : stop ≤ Instant.last)
    (hregular : ∀ s ∈ f.schedules,
      (window (config.reading timezone) f start stop).Regular s (F s))
    (hdisjoint : f.Disjoint (config.reading timezone) F)
    (he : lastAt (unsorted (config.reading timezone) f start stop) t = some e) :
    e.enabled = f.stateAt (config.reading timezone) t := by
  have hafter : ∀ s ∈ f.schedules,
      ∀ e ∈ (window (config.reading timezone) f start stop).expand s, start < e.time :=
    fun s hs _ he => (hregular s hs).start_lt he
  rcases lastAt_unsorted_cases rfl hafter he with
    ⟨_, hstate⟩ | ⟨hstart, hstop, k, hk, hlastk⟩
  · exact hstate
  · have hmem := Window.speaker?_mem hk
    have hword := (hregular k hmem).covers.word hlastk hstart hstop
    obtain ⟨hexpand, rfl⟩ := lastAt_mem hlastk
    exact hword.unique (word_stateAt hon hlast hregular hdisjoint hstart hstop hmem hexpand)

/-- When no windows of different schedules overlap or meet, the last event until an instant tells
the state at that instant. -/
theorem build_tells_history (hon : f.enabled = true) (hs : f.schedules ≠ []) (hle : start ≤ stop)
    (hlast : stop ≤ Instant.last)
    (hregular : ∀ s ∈ f.schedules,
      (window (config.reading timezone) f start stop).Regular s (F s))
    (hdisjoint : f.Disjoint (config.reading timezone) F) :
    ∃ events, build config f start stop timezone = .ok events ∧ Sorted events ∧
      ∀ t, start ≤ t → t ≤ stop → (lastUntil events t).map Event.enabled =
        some (f.stateAt (config.reading timezone) t) := by
  refine ⟨_, build_eq hle hon hs, sort_sorted _, fun t ht ht' => ?_⟩
  obtain ⟨e, he⟩ := exists_lastUntil (mem_sort.2 (mem_unsorted.2 (.inl rfl))) ht
  obtain ⟨_, _, hmem, hmemle⟩ := lastUntil_eq he
  have hlater : ∀ e' ∈ unsorted (config.reading timezone) f start stop, e'.time ≤ t →
      e'.time ≤ e.time := fun e' he' => le_of_lastUntil (sort_sorted _) he (mem_sort.2 he')
  have hstart : start ≤ e.time := hlater _ (mem_unsorted.2 (.inl rfl)) ht
  have hsame : f.stateAt (config.reading timezone) e.time =
      f.stateAt (config.reading timezone) t := by
    rcases ht'.lt_or_eq with hlt | rfl
    · refine Feature.stateAt_congr fun s hs => ?_
      refine (hregular s hs).isActive_eq hlast hstart hmemle hlt fun e' he' hlt' => ?_
      by_contra hnot
      have hmem' := mem_unsorted.2 (.inr (.inl ⟨s, hs, he'⟩))
      exact absurd (hlater e' hmem' (not_lt.1 hnot)) (not_le.2 hlt')
    · have hend := hlater _ (mem_unsorted.2 (.inr (.inr rfl))) le_rfl
      rw [le_antisymm hmemle hend]
  have hat := lastAt_of_lastUntil he
  rw [lastAt_sort] at hat
  rw [he, Option.map_some, Option.some.injEq, ← hsame]
  exact enabled_of_lastAt hon hlast hregular hdisjoint hat

def afternoon : Schedule :=
  .oneShot ⟨4⟩ .enable (some ⟨.ofSeconds 1704204000, false, by decide⟩)
    (some ⟨.ofSeconds 1704207600, false, by decide⟩)

def officeHours : Feature :=
  ((Feature.boolean ⟨1⟩ ⟨2⟩ "office-hours" ⟨.ofYear 2022, false, by decide⟩).addSchedule
    .weekdayMornings).addSchedule afternoon

theorem seconds_of_weekdayMorningTimes
    (ht : t ∈ Schedule.weekdayMorningTimes.universalFirings) : t.seconds % 86400 = 32400 := by
  have hfires := ht.2
  simp only [Cron.Expression.fires, Cron.Times.contains, Schedule.weekdayMorningTimes,
    Bool.and_eq_true, Cron.Field.contains_just_iff, Instant.clock, ClockTime.ofSeconds] at hfires
  omega

theorem recurrence_weekdayMornings {created : Instant} {r : Recurrence}
    (hr : Schedule.weekdayMornings.recurrence? (Config.default.reading none) created = some r) :
    r = ⟨Schedule.weekdayMorningTimes.firingsWhile .utc, 3600, created⟩ := by
  obtain ⟨e, length, he, hlength, rfl⟩ := Schedule.recurrence?_eq_some_iff.1 hr
  rw [Schedule.expression?_weekdayMornings] at he
  cases he
  cases hlength
  rfl

theorem regular_weekdayMornings {w : Window} (hw : w.reading = Config.default.reading none)
    (hcreated : w.created = .ofYear 2022) (hroom : w.stop.seconds - w.start.seconds ≤ 86400) :
    w.Regular .weekdayMornings Schedule.weekdayMorningTimes.universalFirings := by
  have hwhole : ∀ t ∈ Schedule.weekdayMorningTimes.universalFirings, t.Whole := fun t ht => ht.1
  have hrecurs {r : Recurrence}
      (hr : Schedule.weekdayMornings.recurrence? w.reading w.created = some r) :
      r = ⟨Schedule.weekdayMorningTimes.firingsWhile .utc, 3600, .ofYear 2022⟩ := by
    rw [hw, hcreated] at hr
    exact recurrence_weekdayMornings hr
  have hlimit : w.reading.limit = 100000 := by
    rw [hw]
    decide
  constructor
  · rintro r hr after hafter
    rw [hrecurs hr]
    rw [hrecurs hr] at hafter
    exact (Schedule.chronological_weekdayMorningTimes (by decide)).lists hafter
  · intro r hr
    rw [hrecurs hr]
    decide
  · intro r hr t _ _
    rw [hrecurs hr, hlimit]
    exact (Recurrence.encard_openAt_le hwhole).trans (by decide)
  · intro r hr
    rw [hlimit]
    have hseconds : (w.stop.seconds - w.start.seconds).toNat ≤ 100000 := by omega
    exact (Window.encard_due_le hwhole).trans (by exact_mod_cast hseconds)
  · intro r hr p hp _ q ⟨⟨hq, hlt⟩, _⟩
    have hpmod := seconds_of_weekdayMorningTimes hp
    have hqmod := seconds_of_weekdayMorningTimes hq
    rw [Instant.whole_iff.1 hq.1, Instant.lt_ofSeconds_iff] at hlt
    rw [hrecurs hr, Instant.whole_iff.1 hp.1, Instant.whole_iff.1 hq.1]
    simp only [Instant.ofSeconds, Seconds.nanos]
    omega

theorem disjoint_officeHours :
    officeHours.Disjoint (Config.default.reading none)
      fun _ => Schedule.weekdayMorningTimes.universalFirings := by
  have hschedules : officeHours.schedules = [.weekdayMornings, afternoon] := rfl
  simp only [Feature.Disjoint, hschedules, List.pairwise_cons, List.mem_singleton, forall_eq,
    List.not_mem_nil, false_imp_iff, implies_true, List.Pairwise.nil, and_true]
  intro v v' hv hv'
  obtain ⟨rfl, _⟩ := (Schedule.hasWindow_oneShot_iff rfl).1 hv'
  obtain ⟨r, hr, p, hp, _, _, rfl⟩ := (Schedule.hasWindow_recurring_iff rfl).1 hv
  have hmod := seconds_of_weekdayMorningTimes hp
  have hp' : p.nanos = p.seconds * 1000000000 := congrArg Instant.nanos (Instant.whole_iff.1 hp.1)
  have hcut : Schedule.weekdayMornings.cut ⟨p.nanos + r.length.nanos⟩ =
      ⟨p.nanos + 3600000000000⟩ := by
    rw [recurrence_weekdayMornings hr]
    rfl
  rw [hcut]
  have hstart : afternoon.start? = some ⟨1704204000000000000⟩ := rfl
  have hstop : afternoon.end? = some ⟨1704207600000000000⟩ := rfl
  rw [hstart, hstop]
  constructor
  · rintro t ⟨hle, hlt⟩ ⟨hle', hlt'⟩
    have hp := hle p rfl
    have hstop := hlt _ rfl
    have hle' := hle' _ rfl
    have hlt' := hlt' _ rfl
    simp only [Instant.le_iff, Instant.lt_iff] at *
    omega
  · simp only [Stretch.HasEnd, Option.some.injEq]
    rintro t (rfl | rfl) (ht | ht)
    all_goals
      have hnanos := congrArg Instant.nanos ht
      simp only at hnanos
      omega

theorem build_officeHours_history :
    ∃ events, build .default officeHours (.ofSeconds 1704153600) (.ofSeconds 1704240000) none =
        .ok events ∧
      (lastUntil events (.ofSeconds 1704205800)).map Event.enabled = some true ∧
      (lastUntil events (.ofSeconds 1704209400)).map Event.enabled = some false := by
  have hon : officeHours.enabled = true := rfl
  have hne : officeHours.schedules ≠ [] := by decide
  have hle : Instant.ofSeconds 1704153600 ≤ .ofSeconds 1704240000 := by decide
  have hregular : ∀ s ∈ officeHours.schedules,
      (window (Config.default.reading none) officeHours (.ofSeconds 1704153600)
        (.ofSeconds 1704240000)).Regular s Schedule.weekdayMorningTimes.universalFirings := by
    intro s hs
    rcases List.mem_pair.1 hs with rfl | rfl
    · exact regular_weekdayMornings rfl rfl (by decide)
    · exact .of_oneShot rfl
  obtain ⟨events, he, _, hstate⟩ :=
    build_tells_history hon hne hle (by decide) hregular disjoint_officeHours
  refine ⟨events, he, ?_, ?_⟩
  · rw [hstate _ (by decide) (by decide)]
    decide
  · rw [hstate _ (by decide) (by decide)]
    decide

end Timeline

end FeatureFlags
