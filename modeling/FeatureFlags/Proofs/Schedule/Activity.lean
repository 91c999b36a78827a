import FeatureFlags.Proofs.Cron.Chronology
import FeatureFlags.Schedule.Recurrence

namespace FeatureFlags

open Time

namespace Recurrence

variable {r : Recurrence} {F : Set Instant} {time p : Instant} {limit : Nat}

/-- After each instant from just before the start on come the later members of `F`, in order. -/
def Chronological (r : Recurrence) (F : Set Instant) : Prop :=
  ∀ after, ⟨r.start.nanos - 1⟩ ≤ after → (r.firingsAfter after).Lists {t ∈ F | after < t}

/-- The firings whose windows are open at an instant. -/
def openAt (r : Recurrence) (F : Set Instant) (time : Instant) : Set Instant :=
  {p ∈ F | r.start ≤ p ∧ p ≤ time ∧ time.nanos < p.nanos + r.length.nanos}

/-- Just before the first instant at which a firing may be. -/
def floor (r : Recurrence) : Instant := (r.start.add? (-1)).getD r.start

def horizon (r : Recurrence) (time : Instant) : Instant :=
  match time.add? (-r.length.nanos) with
  | some earliest => earliest.later r.floor
  | none => r.floor

theorem openAt?_eq_filter :
    r.openAt? time limit =
      ((r.firingsAfter (r.horizon time)).latest? time limit).filter
        fun firing => (r.end? firing).all (time < ·) :=
  rfl

theorem lt_of_openAt? {stop : Instant} (h : r.openAt? time limit = some p)
    (hstop : r.end? p = some stop) : time < stop := by
  rw [openAt?_eq_filter, Option.filter_eq_some_iff, hstop] at h
  exact of_decide_eq_true h.2

theorem end?_eq_some_iff {stop : Instant} :
    r.end? p = some stop ↔ stop.Representable ∧ stop.nanos = p.nanos + r.length.nanos :=
  Instant.add?_eq_some_iff

theorem nanos_nonneg (length : Seconds) : 0 ≤ length.nanos := by
  simp only [Seconds.nanos]
  omega

theorem le_of_end? {stop : Instant} (hstop : r.end? p = some stop) : p ≤ stop := by
  have hlength := nanos_nonneg r.length
  rw [Instant.le_iff, (end?_eq_some_iff.1 hstop).2]
  omega

theorem floor_le_horizon : r.floor ≤ r.horizon time := by
  rw [horizon]
  split
  · rw [Instant.later_eq_max]
    exact le_max_right _ _
  · exact le_rfl

theorem floor_le_start : r.floor ≤ r.start := by
  rw [floor]
  cases hf : r.start.add? (-1) with
  | some floor =>
    rw [Option.getD_some, Instant.le_iff, (Instant.add?_eq_some_iff.1 hf).2]
    omega
  | none => exact le_rfl

theorem horizon_le (h : r.start ≤ time) : r.horizon time ≤ time := by
  have hfloor := floor_le_start.trans h
  rw [horizon]
  cases hf : time.add? (-r.length.nanos) with
  | some earliest =>
    have hlength := nanos_nonneg r.length
    have hearliest : earliest ≤ time := by
      rw [Instant.le_iff, (Instant.add?_eq_some_iff.1 hf).2]
      omega
    simp only [Instant.later_eq_max]
    exact max_le hearliest hfloor
  | none => exact hfloor

theorem floor_lt_iff (hstart : Instant.first < r.start) (hp : p ≤ Instant.last) :
    r.floor < p ↔ r.start ≤ p := by
  rw [floor]
  cases hf : r.start.add? (-1) with
  | some floor =>
    obtain ⟨_, he⟩ := Instant.add?_eq_some_iff.1 hf
    simp only [Option.getD_some, Instant.lt_iff, Instant.le_iff] at *
    omega
  | none =>
    have hnot := Instant.add?_eq_none_iff.1 hf
    simp only [Instant.Representable, Option.getD_none, Instant.lt_iff, Instant.le_iff] at *
    omega

theorem pred_le_floor : ⟨r.start.nanos - 1⟩ ≤ r.floor := by
  rw [floor]
  cases hf : r.start.add? (-1) with
  | some floor =>
    rw [Option.getD_some, Instant.le_iff, (Instant.add?_eq_some_iff.1 hf).2]
    exact le_rfl
  | none => exact r.start.pred_lt.le

theorem horizon_lt_iff (hstart : Instant.first < r.start) (htime : time ≤ Instant.last)
    (hp : p ≤ time) :
    r.horizon time < p ↔ r.start ≤ p ∧ time.nanos < p.nanos + r.length.nanos := by
  have hfloor := floor_lt_iff hstart (hp.trans htime)
  have hlength := nanos_nonneg r.length
  rw [horizon]
  cases hf : time.add? (-r.length.nanos) with
  | some earliest =>
    obtain ⟨_, he⟩ := Instant.add?_eq_some_iff.1 hf
    simp only [Instant.later_eq_max, max_lt_iff, hfloor]
    rw [and_comm, Instant.lt_iff, he]
    exact and_congr_right fun _ => by omega
  | none =>
    have hnot := Instant.add?_eq_none_iff.1 hf
    simp only [hfloor]
    simp only [Instant.Representable, Instant.le_iff, Instant.lt_iff] at *
    omega

/-- The firings that a look-back from an instant goes through. -/
def lookBack (r : Recurrence) (F : Set Instant) (time : Instant) : Set Instant :=
  {p ∈ F | r.horizon time < p ∧ p ≤ time}

/-- From where the look-back from an instant ends come the later members of `F`, in order. -/
def Sees (r : Recurrence) (F : Set Instant) (time : Instant) : Prop :=
  (r.firingsAfter (r.horizon time)).Lists {t ∈ F | r.horizon time < t}

theorem Chronological.sees (hF : r.Chronological F) : r.Sees F time :=
  hF _ (pred_le_floor.trans floor_le_horizon)

theorem lookBack_eq_openAt (hstart : Instant.first < r.start) (htime : time ≤ Instant.last) :
    r.lookBack F time = r.openAt F time := by
  ext p
  simp only [lookBack, openAt, Set.mem_ofPred_eq]
  constructor
  · rintro ⟨hF, hlt, hle⟩
    obtain ⟨hs, hopen⟩ := (horizon_lt_iff hstart htime hle).1 hlt
    exact ⟨hF, hs, hle, hopen⟩
  · rintro ⟨hF, hs, hle, hopen⟩
    exact ⟨hF, (horizon_lt_iff hstart htime hle).2 ⟨hs, hopen⟩, hle⟩

theorem first_le_floor (hstart : Instant.first ≤ r.start) : Instant.first ≤ r.floor := by
  rw [floor]
  cases hf : r.start.add? (-1) with
  | some floor => exact (Instant.add?_eq_some_iff.1 hf).1.1
  | none => exact hstart

/-- The windows of the firings that a look-back goes through are open. -/
theorem lt_of_horizon_lt (hstart : Instant.first ≤ r.start) (htime : time ≤ Instant.last)
    (hp : r.horizon time < p) : time.nanos < p.nanos + r.length.nanos := by
  have hlength := nanos_nonneg r.length
  have hfloor := (first_le_floor hstart).trans_lt (floor_le_horizon.trans_lt hp)
  rw [horizon] at hp
  cases hf : time.add? (-r.length.nanos) with
  | some earliest =>
    simp only [hf, Instant.later_eq_max, max_lt_iff, Instant.lt_iff] at hp
    have he := (Instant.add?_eq_some_iff.1 hf).2
    omega
  | none =>
    have hnot := Instant.add?_eq_none_iff.1 hf
    simp only [Instant.Representable, Instant.le_iff, Instant.lt_iff] at *
    omega

/-- A look-back finds the last of the firings that it goes through, unless there are more of them
than it looks at. -/
theorem Sees.openAt?_eq_some_iff (hF : r.Sees F time) (hstart : Instant.first ≤ r.start)
    (htime : time ≤ Instant.last) :
    r.openAt? time limit = some p ↔
      IsGreatest (r.lookBack F time) p ∧ (r.lookBack F time).encard ≤ limit := by
  have hset : {t ∈ {t ∈ F | r.horizon time < t} | t ≤ time} = r.lookBack F time := by
    ext t
    simp only [lookBack, Set.mem_ofPred_eq, and_assoc]
  rw [openAt?_eq_filter, Option.filter_eq_some_iff, Cron.Enumeration.Lists.latest?_eq_some_iff hF,
    hset]
  refine ⟨And.left, fun h => ⟨h, ?_⟩⟩
  have hopen := lt_of_horizon_lt hstart htime h.1.1.2.1
  rw [Option.all_eq_true]
  intro stop hstop
  rw [decide_eq_true_eq, Instant.lt_iff, (end?_eq_some_iff.1 hstop).2]
  exact hopen

theorem Sees.isSome_openAt?_iff (hF : r.Sees F time) (hstart : Instant.first ≤ r.start)
    (htime : time ≤ Instant.last) :
    (r.openAt? time limit).isSome = true ↔
      (r.lookBack F time).Nonempty ∧ (r.lookBack F time).encard ≤ limit := by
  rw [Option.isSome_iff_exists]
  simp only [hF.openAt?_eq_some_iff hstart htime, exists_and_right]
  exact and_congr_left fun hcap =>
    ⟨fun ⟨p, hp⟩ => ⟨p, hp.1⟩, fun hne => Instant.exists_isGreatest hne hcap⟩

/-- The look-back finds the last of the firings whose windows are open, unless there are more of
them than it looks at. -/
theorem openAt?_eq_some_iff (hF : r.Chronological F) (hstart : Instant.first < r.start)
    (htime : time ≤ Instant.last) :
    r.openAt? time limit = some p ↔
      IsGreatest (r.openAt F time) p ∧ (r.openAt F time).encard ≤ limit := by
  rw [← lookBack_eq_openAt hstart htime]
  exact hF.sees.openAt?_eq_some_iff hstart.le htime

theorem encard_openAt_le (hF : ∀ t ∈ F, t.Whole) : (r.openAt F time).encard ≤ r.length := by
  have hcard := Instant.encard_whole_le (S := r.openAt F time) (m := time.seconds - r.length)
    (n := time.seconds) fun p hp => by
      obtain ⟨hpF, _, hle, hopen⟩ := hp
      have hwhole := Instant.whole_iff.1 (hF p hpF)
      refine ⟨hF p hpF, ?_, Instant.seconds_mono hle⟩
      rw [hwhole] at hopen
      simp only [Instant.ofSeconds, Instant.seconds, Seconds.nanos] at *
      omega
  simpa using hcard

theorem isSome_openAt?_iff (hF : r.Chronological F) (hstart : Instant.first < r.start)
    (htime : time ≤ Instant.last) (hcap : (r.openAt F time).encard ≤ limit) :
    (r.openAt? time limit).isSome = true ↔ (r.openAt F time).Nonempty := by
  rw [hF.sees.isSome_openAt?_iff hstart.le htime,
    lookBack_eq_openAt hstart htime]
  exact and_iff_left hcap

end Recurrence

namespace Schedule

variable {s : Schedule} {reading : Reading} {created time : Instant} {r : Recurrence}
  {e : Cron.Expression}

theorem recurrence?_eq_some_iff :
    s.recurrence? reading created = some r ↔ ∃ e length, s.expression? = some e ∧
      s.length? = some length ∧
      r = ⟨reading.firings e (s.zone reading.zone), length, s.effectiveStart created⟩ := by
  simp only [recurrence?, Option.bind_eq_bind, Option.bind_eq_some_iff]
  constructor
  · rintro ⟨e, he, length, hlength, hr⟩
    cases hr
    exact ⟨e, length, he, hlength, rfl⟩
  · rintro ⟨e, length, he, hlength, rfl⟩
    exact ⟨e, he, length, hlength, rfl⟩

theorem expression?_eq_some_iff :
    s.expression? = some e ↔ ∃ text, s.cron = some text ∧ Cron.Expression.parse text = .ok e := by
  simp only [expression?, parseCron]
  cases s.cron with
  | none => simp
  | some text =>
    simp only [Option.map_some, Option.some.injEq, exists_eq_left']
    cases Cron.Expression.parse text with
    | error => simp
    | ok e' => simp

theorem isRecurring_of_expression? (he : s.expression? = some e) : s.isRecurring = true := by
  obtain ⟨text, ht, _⟩ := expression?_eq_some_iff.1 he
  rw [isRecurring, ht]
  rfl

theorem recurrence?_of_oneShot (hs : s.isRecurring = false) :
    s.recurrence? reading created = none := by
  cases hr : s.recurrence? reading created with
  | none => rfl
  | some r =>
    obtain ⟨_, _, he, _⟩ := recurrence?_eq_some_iff.1 hr
    rw [isRecurring_of_expression? he] at hs
    cases hs

theorem isActive_of_recurrence? (hr : s.recurrence? reading created = some r) :
    s.isActive reading created time = true ↔
      r.start ≤ time ∧ (∀ stop ∈ s.end?, time < stop) ∧
        (r.openAt? time reading.limit).isSome = true := by
  obtain ⟨e, _, he, _⟩ := recurrence?_eq_some_iff.1 hr
  rw [isActive, isRecurring_of_expression? he, if_pos rfl, hr, Option.any_some]
  simp only [Bool.and_eq_true, decide_eq_true_eq, Option.all_eq_true, and_assoc, Option.mem_def]

/-- A recurring schedule is active before its end while the window of a firing that is not before
its start is open. -/
theorem isActive_iff_exists_firing {zone : Zone} {limit : Nat} {length : Seconds} {F : Set Instant}
    (he : s.expression? = some e) (hlength : s.length? = some length)
    (hF : e.Chronological (s.zone zone) F ⟨(s.effectiveStart created).nanos - 1⟩)
    (hstart : Instant.first < s.effectiveStart created)
    (htime : time ≤ Instant.last)
    (hcap : {p ∈ F | s.effectiveStart created ≤ p ∧ p ≤ time ∧
      time.nanos < p.nanos + length.nanos}.encard ≤ limit) :
    s.isActive { zone, limit } created time = true ↔
      (∀ stop ∈ s.end?, time < stop) ∧ ∃ p ∈ F, s.effectiveStart created ≤ p ∧ p ≤ time ∧
        time.nanos < p.nanos + length.nanos := by
  let r : Recurrence := ⟨e.firingsWhile (s.zone zone), length, s.effectiveStart created⟩
  have hr : s.recurrence? { zone, limit } created = some r :=
    recurrence?_eq_some_iff.2 ⟨e, length, he, hlength, rfl⟩
  have hchron : r.Chronological F := fun after hafter => hF.lists hafter
  rw [isActive_of_recurrence? hr, Recurrence.isSome_openAt?_iff hchron hstart htime hcap]
  constructor
  · rintro ⟨_, hstop, p, hp⟩
    exact ⟨hstop, p, hp⟩
  · rintro ⟨hstop, p, hp⟩
    exact ⟨hp.2.1.trans hp.2.2.1, hstop, p, hp⟩

def weekdayMornings : Schedule :=
  ⟨⟨1⟩, none, none, some "0 9 * * 1-5", some 3600, none, .enable⟩

/-- What `weekdayMornings` fires at. -/
def weekdayMorningTimes : Cron.Expression :=
  ⟨"0 9 * * 1-5", ⟨.just 0, .just 0, .just 9, .every .day, .every .month, ⟨[⟨2, 6, 1⟩]⟩,
    .every .year⟩⟩

theorem expression?_weekdayMornings : weekdayMornings.expression? = some weekdayMorningTimes := by
  decide

theorem chronological_weekdayMorningTimes {floor : Instant} (hfloor : Instant.ofYear 0 ≤ floor) :
    weekdayMorningTimes.Chronological .utc weekdayMorningTimes.universalFirings floor :=
  Cron.Expression.chronological_utc (Cron.Field.every_within .year) hfloor

theorem isActive_weekdayMornings :
    weekdayMornings.isActive { zone := .utc, limit := 3600 } (.ofYear 2023)
      (.ofSeconds 1704187800) = true := by
  have hwhole : ∀ t ∈ weekdayMorningTimes.universalFirings, t.Whole := fun t ht => ht.1
  have hlength : weekdayMornings.length? = some 3600 := by decide
  refine (isActive_iff_exists_firing (F := weekdayMorningTimes.universalFirings)
    expression?_weekdayMornings hlength (chronological_weekdayMorningTimes (by decide))
    (by decide) (by decide) ?_).2 ⟨by simp [end?, weekdayMornings], .ofSeconds 1704186000, ?_, ?_⟩
  · let r : Recurrence := ⟨weekdayMorningTimes.firingsWhile .utc, 3600, .ofYear 2023⟩
    exact r.encard_openAt_le hwhole
  · exact ⟨Instant.whole_ofSeconds _, by decide⟩
  · decide

end Schedule

end FeatureFlags
