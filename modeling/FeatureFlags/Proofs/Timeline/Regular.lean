import FeatureFlags.Proofs.Timeline.Changes

namespace FeatureFlags.Timeline.Window

open Time

variable {w : Window} {s : Schedule} {r : Recurrence} {e : Event Instant} {p t u a b : Instant}
  {F : Set Instant} {v : Stretch}

/-- The firings of a recurring schedule come in order of time from a start that is not too early,
the next one not before the window of one is over, and every search has room for them. -/
structure Regular (w : Window) (s : Schedule) (F : Set Instant) : Prop where
  chronological : ∀ r, s.recurrence? w.reading w.created = some r → r.Chronological F
  start : ∀ r, s.recurrence? w.reading w.created = some r → Instant.first < r.start
  lookBack : ∀ r, s.recurrence? w.reading w.created = some r → ∀ t, w.start ≤ t → t ≤ w.stop →
    (r.openAt F t).encard ≤ w.reading.limit
  room : ∀ r, s.recurrence? w.reading w.created = some r →
    (w.due s r F).encard ≤ w.reading.limit
  gap : ∀ r, s.recurrence? w.reading w.created = some r → ∀ p ∈ F, r.start ≤ p →
    ∀ q, IsLeast {t ∈ F | p < t} q → p.nanos + r.length.nanos ≤ q.nanos

theorem Regular.of_oneShot (hs : s.isRecurring = false) : w.Regular s F := by
  have hnone {r : Recurrence} : ¬ s.recurrence? w.reading w.created = some r := by
    rw [Schedule.recurrence?_of_oneShot hs]
    exact Option.some_ne_none r ∘ Eq.symm
  exact ⟨fun _ hr => absurd hr hnone, fun _ hr => absurd hr hnone, fun _ hr => absurd hr hnone,
    fun _ hr => absurd hr hnone, fun _ hr => absurd hr hnone⟩

theorem Regular.foreseen (h : w.Regular s F) (ht : w.start ≤ t) (ht' : t ≤ w.stop) :
    s.Foreseen w.reading w.created F t :=
  ⟨h.chronological, h.start, fun r hr => h.lookBack r hr t ht ht'⟩

theorem start_le_after : r.start.nanos - 1 ≤ (w.after r).nanos := by
  have hle : r.start ≤ w.lo r := by
    rw [lo_eq_max]
    exact le_max_right _ _
  rw [Instant.le_iff] at hle
  rw [after]
  split
  · simp only
    omega
  · omega

theorem Regular.covers (h : w.Regular s F) : w.Covers s F where
  room := h.room
  lists r hr := by
    apply h.chronological r hr
    exact start_le_after

theorem Regular.start_lt (h : w.Regular s F) (he : e ∈ w.expand s) : w.start < e.time :=
  start_lt_expand (fun _ hr _ hp => ((h.covers.mem_told_iff hr).1 hp).2.1) he

theorem Regular.le_of_lt {q : Instant} (h : w.Regular s F)
    (hr : s.recurrence? w.reading w.created = some r) (hp : p ∈ F) (hrstart : r.start ≤ p)
    (hq : q ∈ F) (hpq : p < q) : p.nanos + r.length.nanos ≤ q.nanos := by
  have hafter : ⟨r.start.nanos - 1⟩ ≤ p := r.start.pred_lt.le.trans hrstart
  obtain ⟨l, hl, _⟩ := h.chronological r hr p hafter (fun _ => true) 1
  obtain ⟨next, hnext⟩ := hl.exists_isLeast ⟨hq, hpq⟩
  exact (h.gap r hr p hp hrstart next hnext).trans (hnext.2 ⟨hq, hpq⟩)

/-- At most one window of the schedule is open at a time, and the look-back finds it. -/
theorem Regular.openAt?_eq (h : w.Regular s F) (hlast : w.stop ≤ Instant.last)
    (hr : s.recurrence? w.reading w.created = some r) (ht : w.start ≤ t) (ht' : t ≤ w.stop)
    (hp : p ∈ r.openAt F t) : r.openAt? t w.reading.limit = some p := by
  rw [Recurrence.openAt?_eq_some_iff (h.chronological r hr) (h.start r hr) (ht'.trans hlast)]
  refine ⟨⟨hp, fun q hq => ?_⟩, h.lookBack r hr t ht ht'⟩
  by_contra hlt
  have hgap := h.le_of_lt hr hp.1 hp.2.1 hq.1 (not_le.1 hlt)
  have hopen := hp.2.2.2
  have hle := hq.2.2.1
  rw [Instant.le_iff] at hle
  omega

theorem Regular.exists_event_start (h : w.Regular s F) (hv : s.HasWindow w.reading w.created F v)
    (ha : v.start = some a) (hstart : w.start < a) (hstop : a < w.stop) :
    ∃ e ∈ w.expand s, e.time = a := by
  cases hv with
  | single hs hne =>
    exact ⟨⟨a, s.action.enables⟩,
      (mem_expand_oneShot_iff hs).2 ⟨hne, inside_iff.2 ⟨hstart, hstop⟩, .inl ⟨ha, rfl⟩⟩, rfl⟩
  | fired hr hp hrstart hend =>
    cases ha
    have hdue : a ∈ w.due s _ F := ⟨hp, hstart, hrstart, lt_hi_iff.2 ⟨hstop, hend⟩⟩
    have htold := (h.covers.mem_told_iff hr).2 hdue
    exact ⟨⟨a, s.action.enables⟩,
      (mem_expand_iff hr).2 ⟨lo_lt_hi_of_due hdue, .firing htold⟩, rfl⟩

/-- The end of a window is told that comes before the schedule's own: the window was open at the
start or its firing has been told. -/
theorem Regular.exists_event_closing (h : w.Regular s F) (hlast : w.stop ≤ Instant.last)
    (hr : s.recurrence? w.reading w.created = some r) (hp : p ∈ F) (hrstart : r.start ≤ p)
    (hb : b.nanos = p.nanos + r.length.nanos) (hstart : w.start < b) (hbhi : b < w.hi s) :
    ∃ e ∈ w.expand s, e.time = b := by
  have hlength := Schedule.length_pos hr
  have hend : r.end? p = some b := by
    rw [Recurrence.end?_eq_some_iff]
    refine ⟨⟨?_, (hbhi.le.trans hi_le_stop).trans hlast⟩, hb⟩
    have hfirst := h.start r hr
    rw [Instant.lt_iff] at hfirst
    rw [Instant.le_iff] at *
    omega
  have hpb : p < b := by
    rw [Instant.lt_iff]
    omega
  by_cases hps : w.start < p
  · have hdue : p ∈ w.due s r F := ⟨hp, hps, hrstart, hpb.trans hbhi⟩
    exact ⟨⟨b, w.baseline⟩, (mem_expand_iff hr).2
      ⟨lo_lt_hi_of_due hdue, .closing ((h.covers.mem_told_iff hr).2 hdue) hend hbhi⟩, rfl⟩
  · have hle := not_lt.1 hps
    have hlo : w.lo r = w.start := by
      rw [lo_eq_max, max_eq_left (hrstart.trans hle)]
    have hopen : p ∈ r.openAt F w.start := ⟨hp, hrstart, hle, hb ▸ hstart⟩
    have hstop : w.start ≤ w.stop := (hstart.trans hbhi).le.trans hi_le_stop
    have hfound := h.openAt?_eq hlast hr le_rfl hstop hopen
    exact ⟨⟨b, w.baseline⟩, (mem_expand_iff hr).2
      ⟨hlo ▸ hstart.trans hbhi, .carriedOver hlo hfound hend hbhi⟩, rfl⟩

theorem Regular.exists_event_cutOff (h : w.Regular s F) (hlast : w.stop ≤ Instant.last)
    (hr : s.recurrence? w.reading w.created = some r) (hp : p ∈ F) (hrstart : r.start ≤ p)
    (hb : s.end? = some b) (hpb : p < b) (hcut : b.nanos ≤ p.nanos + r.length.nanos)
    (hstart : w.start < b) (hstop : b < w.stop) : ∃ e ∈ w.expand s, e.time = b := by
  have hhi : w.hi s = b := by
    simp only [hi, hb, Instant.earlier_eq_min, min_eq_left hstop.le]
  have hopen : p ∈ r.openAt F ⟨b.nanos - 1⟩ := by
    refine ⟨hp, hrstart, Instant.le_pred_iff.2 hpb, ?_⟩
    simp only
    omega
  have hfound := h.openAt?_eq hlast hr (Instant.le_pred_iff.2 hstart)
    (b.pred_lt.trans hstop).le hopen
  have hend : ∀ time ∈ r.end? p, b ≤ time := by
    intro time htime
    rw [Instant.le_iff, (Recurrence.end?_eq_some_iff.1 htime).2]
    exact hcut
  have hlt : w.lo r < b := by
    rw [lo_eq_max]
    exact max_lt hstart (hrstart.trans_lt hpb)
  exact ⟨⟨b, w.baseline⟩, (mem_expand_iff hr).2
    ⟨hhi ▸ hlt, hhi ▸ .cutOff (hhi ▸ hstop) (hhi ▸ hfound) (hhi ▸ hend)⟩, rfl⟩

/-- The end of a window is told that holds an instant of the timeline. -/
theorem Regular.exists_event_stop (h : w.Regular s F) (hlast : w.stop ≤ Instant.last)
    (hv : s.HasWindow w.reading w.created F v) (hb : v.stop = some b) (hstart : w.start < b)
    (hstop : b < w.stop) : ∃ e ∈ w.expand s, e.time = b := by
  cases hv with
  | single hs hne =>
    exact ⟨⟨b, w.baseline⟩,
      (mem_expand_oneShot_iff hs).2 ⟨hne, inside_iff.2 ⟨hstart, hstop⟩, .inr ⟨hb, rfl⟩⟩, rfl⟩
  | @fired r p hr hp hrstart hend =>
    cases hb
    rcases s.cut_cases ⟨p.nanos + r.length.nanos⟩ with ⟨hlt, hcut⟩ | ⟨c, hc, hle, hcut⟩
    · rw [hcut] at hstart hstop ⊢
      exact h.exists_event_closing hlast hr hp hrstart rfl hstart (lt_hi_iff.2 ⟨hstop, hlt⟩)
    · rw [hcut] at hstart hstop ⊢
      exact h.exists_event_cutOff hlast hr hp hrstart hc (hend c hc) hle hstart hstop

theorem end?_eq_hi (h : w.hi s < w.stop) : s.end? = some (w.hi s) := by
  rw [hi] at *
  cases hb : s.end? with
  | none => simp [hb] at h
  | some b =>
    simp only [hb, Instant.earlier_eq_min, min_lt_iff, lt_irrefl, or_false] at *
    rw [min_eq_left h.le]

theorem Regular.hasEnd_of_mem_expand (h : w.Regular s F) (hlast : w.stop ≤ Instant.last)
    (he : e ∈ w.expand s) :
    ∃ v, s.HasWindow w.reading w.created F v ∧ v.HasEnd e.time := by
  cases hs : s.isRecurring with
  | false =>
    obtain ⟨hne, _, hends⟩ := (mem_expand_oneShot_iff hs).1 he
    exact ⟨_, .single hs hne, hends.imp And.left And.left⟩
  | true =>
    cases hr : s.recurrence? w.reading w.created with
    | none => simp [expand_of_malformed hs hr] at he
    | some r =>
      obtain ⟨hlt, htells⟩ := (mem_expand_iff hr).1 he
      have hwindow {p b : Instant} (hp : p ∈ F) (hrstart : r.start ≤ p) (hphi : p < w.hi s)
          (hb : s.cut ⟨p.nanos + r.length.nanos⟩ = b) :
          ∃ v, s.HasWindow w.reading w.created F v ∧ v.HasEnd b :=
        ⟨_, .fired hr hp hrstart (lt_hi_iff.1 hphi).2, .inr (congrArg some hb)⟩
      have hcut {p b : Instant} (hb : r.end? p = some b) (hbhi : b < w.hi s) :
          s.cut ⟨p.nanos + r.length.nanos⟩ = b := by
        have hnanos : b = ⟨p.nanos + r.length.nanos⟩ :=
          Instant.ext_nanos (Recurrence.end?_eq_some_iff.1 hb).2
        rw [← hnanos]
        exact Schedule.cut_eq_self (lt_hi_iff.1 hbhi).2
      have hopen {p t : Instant} (ht : t ≤ w.stop) (hp : r.openAt? t w.reading.limit = some p) :
          p ∈ r.openAt F t :=
        ((Recurrence.openAt?_eq_some_iff (h.chronological r hr) (h.start r hr)
          (ht.trans hlast)).1 hp).1.1
      cases htells with
      | @carriedOver p time hlo hp htime hbhi =>
        have hstart := hlo ▸ hlt
        obtain ⟨hpF, hrstart, hle, _⟩ := hopen (hstart.le.trans hi_le_stop) hp
        exact hwindow hpF hrstart (hle.trans_lt hstart) (hcut htime hbhi)
      | firing hp =>
        obtain ⟨hpF, _, hrstart, hphi⟩ := (h.covers.mem_told_iff hr).1 hp
        exact ⟨_, .fired hr hpF hrstart (lt_hi_iff.1 hphi).2, .inl rfl⟩
      | closing hp htime hbhi =>
        obtain ⟨hpF, _, hrstart, hphi⟩ := (h.covers.mem_told_iff hr).1 hp
        exact hwindow hpF hrstart hphi (hcut htime hbhi)
      | @cutOff p hhi hp hend =>
        have hpred := (w.hi s).pred_lt
        obtain ⟨hpF, hrstart, hle, _⟩ := hopen (hpred.trans hhi).le hp
        refine hwindow hpF hrstart (hle.trans_lt hpred) (Schedule.cut_eq_end (end?_eq_hi hhi) ?_)
        cases hb : r.end? p with
        | some b =>
          rw [← Instant.ext_nanos (Recurrence.end?_eq_some_iff.1 hb).2]
          exact hend b hb
        | none =>
          have hnot := Instant.add?_eq_none_iff.1 hb
          have hlength := Recurrence.nanos_nonneg r.length
          have hfirst := h.start r hr
          have hhilast := hhi.trans_le hlast
          simp only [Instant.Representable, Instant.le_iff, Instant.lt_iff] at *
          omega

theorem Regular.start_of_contains_stop {v' : Stretch} (h : w.Regular s F)
    (hv : s.HasWindow w.reading w.created F v) (hb : v.stop = some b)
    (hv' : s.HasWindow w.reading w.created F v') (hc : v'.Contains b) : v'.start = some b := by
  cases hv with
  | single hs hne =>
    obtain ⟨rfl, _⟩ := (Schedule.hasWindow_oneShot_iff hs).1 hv'
    exact absurd (hc.2 b hb) (lt_irrefl b)
  | @fired r p hr hp hrstart hend =>
    have hs := Schedule.isRecurring_of_recurrence? hr
    obtain ⟨r', hr', q, hq, hqstart, _, rfl⟩ := (Schedule.hasWindow_recurring_iff hs).1 hv'
    rw [hr] at hr'
    cases hr'
    obtain ⟨hle, hopen, hbend⟩ := Schedule.contains_fired_iff.1 hc
    have hb' : b = ⟨p.nanos + r.length.nanos⟩ := by
      cases hb
      rcases s.cut_cases ⟨p.nanos + r.length.nanos⟩ with ⟨_, hcut⟩ | ⟨c, hc, _, hcut⟩
      · exact hcut
      · exact absurd (hbend c hc) (hcut ▸ lt_irrefl _)
    rcases hle.lt_or_eq with hlt | rfl
    · rcases lt_or_ge p q with hpq | hqp
      · have hgap := h.le_of_lt hr hp hrstart hq hpq
        rw [hb', Instant.lt_iff] at hlt
        simp only at hlt
        omega
      · rw [hb'] at hopen
        rw [Instant.le_iff] at hqp
        simp only at hopen
        omega
    · rfl

/-- While nothing is told of a schedule it stays as active as it is. -/
theorem Regular.isActive_eq (h : w.Regular s F) (hlast : w.stop ≤ Instant.last)
    (hstart : w.start ≤ t) (htu : t ≤ u) (hstop : u < w.stop)
    (hno : ∀ e ∈ w.expand s, t < e.time → u < e.time) :
    s.isActive w.reading w.created t = s.isActive w.reading w.created u := by
  have hle := htu.trans hstop.le
  rw [Bool.eq_iff_iff, Schedule.isActive_iff_hasWindow (h.foreseen hstart hle) (hle.trans hlast),
    Schedule.isActive_iff_hasWindow (h.foreseen (hstart.trans htu) hstop.le)
      (hstop.le.trans hlast)]
  constructor
  · rintro ⟨v, hv, hc⟩
    refine ⟨v, hv, fun a ha => (hc.1 a ha).trans htu, fun b hb => ?_⟩
    by_contra hbu
    have hbstop := (not_lt.1 hbu).trans_lt hstop
    obtain ⟨e, he, rfl⟩ :=
      h.exists_event_stop hlast hv hb (hstart.trans_lt (hc.2 b hb)) hbstop
    exact hbu (hno e he (hc.2 _ hb))
  · rintro ⟨v, hv, hc⟩
    refine ⟨v, hv, fun a ha => ?_, fun b hb => htu.trans_lt (hc.2 b hb)⟩
    by_contra hta
    have hta := not_le.1 hta
    obtain ⟨e, he, rfl⟩ :=
      h.exists_event_start hv ha (hstart.trans_lt hta) ((hc.1 a ha).trans_lt hstop)
    exact absurd (hc.1 _ ha) (not_le.2 (hno e he hta))

end FeatureFlags.Timeline.Window
