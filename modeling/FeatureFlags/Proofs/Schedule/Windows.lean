import FeatureFlags.Proofs.Schedule.Activity

namespace FeatureFlags

open Time

/-- From its start on and before its end. Where one of them is missing it has no bound. -/
structure Stretch where
  start : Option Instant
  stop : Option Instant

namespace Stretch

variable {v v' : Stretch} {t : Instant}

def Contains (v : Stretch) (t : Instant) : Prop := (∀ a ∈ v.start, a ≤ t) ∧ ∀ b ∈ v.stop, t < b

def HasEnd (v : Stretch) (t : Instant) : Prop := v.start = some t ∨ v.stop = some t

/-- Neither an instant nor an end in common. -/
def Apart (v v' : Stretch) : Prop :=
  (∀ t, v.Contains t → ¬ v'.Contains t) ∧ ∀ t, v.HasEnd t → ¬ v'.HasEnd t

theorem Apart.symm (h : v.Apart v') : v'.Apart v :=
  ⟨fun t ht ht' => h.1 t ht' ht, fun t ht ht' => h.2 t ht' ht⟩

theorem contains_start (hne : ∃ u, v.Contains u) (ht : v.start = some t) : v.Contains t := by
  obtain ⟨u, hu⟩ := hne
  refine ⟨fun a ha => ?_, fun b hb => (hu.1 t ht).trans_lt (hu.2 b hb)⟩
  rw [Option.mem_def, ht, Option.some.injEq] at ha
  exact ha.ge

theorem Apart.not_contains (h : v.Apart v') (hne : ∃ u, v.Contains u) (ht : v.HasEnd t) :
    ¬ v'.Contains t := by
  intro ht'
  rcases ht with hstart | hstop
  · exact h.1 t (contains_start hne hstart) ht'
  · -- Both hold the last instant before the end.
    have hstart' : v'.start ≠ some t := fun hs => h.2 t (.inr hstop) (.inl hs)
    obtain ⟨u, hu⟩ := hne
    have hpred := t.pred_lt
    refine h.1 ⟨t.nanos - 1⟩ ⟨fun a ha => ?_, fun b hb => ?_⟩ ⟨fun a ha => ?_, fun b hb => ?_⟩
    · exact Instant.le_pred_iff.2 ((hu.1 a ha).trans_lt (hu.2 t hstop))
    · rw [Option.mem_def, hstop, Option.some.injEq] at hb
      exact hpred.trans_le hb.le
    · exact Instant.le_pred_iff.2 (lt_of_le_of_ne (ht'.1 a ha) fun he => hstart' (he ▸ ha))
    · exact hpred.trans (ht'.2 b hb)

end Stretch

namespace Schedule

variable {s : Schedule} {reading : Reading} {created t u : Instant} {r : Recurrence}
  {F : Set Instant} {v : Stretch}

def cut (s : Schedule) (t : Instant) : Instant :=
  match s.end? with
  | some stop => min t stop
  | none => t

theorem lt_cut_iff : t < s.cut u ↔ t < u ∧ ∀ stop ∈ s.end?, t < stop := by
  rw [cut]
  cases s.end? with
  | none => simp
  | some stop => simp

theorem cut_eq_self (h : ∀ stop ∈ s.end?, t < stop) : s.cut t = t := by
  rw [cut]
  cases he : s.end? with
  | none => rfl
  | some stop => exact min_eq_left (h stop he).le

theorem cut_eq_end {stop : Instant} (he : s.end? = some stop) (h : stop ≤ t) : s.cut t = stop := by
  simp only [cut, he, min_eq_right h]

theorem cut_cases (s : Schedule) (t : Instant) :
    (∀ stop ∈ s.end?, t < stop) ∧ s.cut t = t ∨
      ∃ stop, s.end? = some stop ∧ stop ≤ t ∧ s.cut t = stop := by
  by_cases h : ∀ stop ∈ s.end?, t < stop
  · exact .inl ⟨h, cut_eq_self h⟩
  · push Not at h
    obtain ⟨stop, he, hle⟩ := h
    exact .inr ⟨stop, he, hle, cut_eq_end he hle⟩

/-- The windows of a schedule: the one it is unless that is empty, or one for each firing from its
start on and before its end. -/
inductive HasWindow (s : Schedule) (reading : Reading) (created : Instant) (F : Set Instant) :
    Stretch → Prop where
  | single (hs : s.isRecurring = false) (hne : ∀ a ∈ s.start?, ∀ b ∈ s.end?, a < b) :
      HasWindow s reading created F ⟨s.start?, s.end?⟩
  | fired {r : Recurrence} {p : Instant} (hr : s.recurrence? reading created = some r) (hp : p ∈ F)
      (hstart : r.start ≤ p) (hend : ∀ b ∈ s.end?, p < b) :
      HasWindow s reading created F ⟨some p, some (s.cut ⟨p.nanos + r.length.nanos⟩)⟩

def Opens (s : Schedule) (reading : Reading) (created : Instant) (F : Set Instant) (t : Instant) :
    Prop :=
  ∃ v, s.HasWindow reading created F v ∧ v.start = some t

theorem length_pos (hr : s.recurrence? reading created = some r) : 0 < r.length.nanos := by
  obtain ⟨_, length, _, hlength, rfl⟩ := recurrence?_eq_some_iff.1 hr
  simp only [length?, Option.bind_eq_bind, Option.bind_eq_some_iff, Option.ite_none_right_eq_some,
    Option.some.injEq] at hlength
  obtain ⟨_, _, ⟨hpos, _⟩, rfl⟩ := hlength
  simp only [Seconds.nanos]
  omega

theorem hasWindow_oneShot_iff (hs : s.isRecurring = false) :
    s.HasWindow reading created F v ↔
      v = ⟨s.start?, s.end?⟩ ∧ ∀ a ∈ s.start?, ∀ b ∈ s.end?, a < b := by
  constructor
  · intro hv
    cases hv with
    | single _ hne => exact ⟨rfl, hne⟩
    | fired hr =>
      rw [recurrence?_of_oneShot hs] at hr
      cases hr
  · rintro ⟨rfl, hne⟩
    exact .single hs hne

theorem hasWindow_recurring_iff (hs : s.isRecurring = true) :
    s.HasWindow reading created F v ↔ ∃ r, s.recurrence? reading created = some r ∧
      ∃ p ∈ F, r.start ≤ p ∧ (∀ b ∈ s.end?, p < b) ∧
        v = ⟨some p, some (s.cut ⟨p.nanos + r.length.nanos⟩)⟩ := by
  constructor
  · intro hv
    cases hv with
    | single hs' =>
      rw [hs] at hs'
      cases hs'
    | fired hr hp hstart hend => exact ⟨_, hr, _, hp, hstart, hend, rfl⟩
  · rintro ⟨r, hr, p, hp, hstart, hend, rfl⟩
    exact .fired hr hp hstart hend

theorem isRecurring_of_recurrence? (hr : s.recurrence? reading created = some r) :
    s.isRecurring = true := by
  obtain ⟨_, _, he, _⟩ := recurrence?_eq_some_iff.1 hr
  exact isRecurring_of_expression? he

theorem HasWindow.nonempty (h : s.HasWindow reading created F v) : ∃ u, v.Contains u := by
  cases h with
  | single hs hne =>
    cases ha : s.start? with
    | some a => exact ⟨a, by simp, fun b hb => hne a ha b hb⟩
    | none =>
      cases s.end? with
      | none => exact ⟨created, by simp [Stretch.Contains]⟩
      | some b => exact ⟨⟨b.nanos - 1⟩, by simp, by simpa using b.pred_lt⟩
  | @fired r p hr hp hstart hend =>
    have hpos := length_pos hr
    have hlt : p < ⟨p.nanos + r.length.nanos⟩ := by
      rw [Instant.lt_iff]
      simp only
      omega
    refine ⟨p, by simp, ?_⟩
    simp only [Option.mem_some_iff, forall_eq', lt_cut_iff]
    exact ⟨hlt, hend⟩

theorem contains_fired_iff {p : Instant} :
    Stretch.Contains ⟨some p, some (s.cut ⟨p.nanos + r.length.nanos⟩)⟩ t ↔
      p ≤ t ∧ t.nanos < p.nanos + r.length.nanos ∧ ∀ stop ∈ s.end?, t < stop := by
  simp only [Stretch.Contains, Option.mem_some_iff, forall_eq', lt_cut_iff]
  exact Iff.rfl

theorem windowContains_iff :
    s.windowContains t = true ↔ Stretch.Contains ⟨s.start?, s.end?⟩ t := by
  simp only [windowContains, Bool.and_eq_true, Option.all_eq_true, decide_eq_true_eq,
    Stretch.Contains, Option.mem_def]

theorem opens_oneShot_iff (hs : s.isRecurring = false) :
    s.Opens reading created F t ↔ s.start? = some t ∧ ∀ b ∈ s.end?, t < b := by
  simp only [Opens, hasWindow_oneShot_iff hs]
  constructor
  · rintro ⟨_, ⟨rfl, hne⟩, ht⟩
    exact ⟨ht, hne t ht⟩
  · rintro ⟨ht, hb⟩
    refine ⟨_, ⟨rfl, fun a ha => ?_⟩, ht⟩
    rw [Option.mem_def, ht, Option.some.injEq] at ha
    exact ha ▸ hb

theorem opens_iff_of_recurrence? (hr : s.recurrence? reading created = some r) :
    s.Opens reading created F t ↔ t ∈ F ∧ r.start ≤ t ∧ ∀ b ∈ s.end?, t < b := by
  simp only [Opens, hasWindow_recurring_iff (isRecurring_of_recurrence? hr), hr,
    Option.some.injEq, exists_eq_left']
  constructor
  · rintro ⟨_, ⟨p, hp, hstart, hend, rfl⟩, ht⟩
    cases ht
    exact ⟨hp, hstart, hend⟩
  · rintro ⟨ht, hstart, hend⟩
    exact ⟨_, ⟨t, ht, hstart, hend, rfl⟩, rfl⟩

/-- What a look-back needs: firings in order of time from the start on, and no more open windows
than it looks at. -/
structure Foreseen (s : Schedule) (reading : Reading) (created : Instant) (F : Set Instant)
    (t : Instant) : Prop where
  chronological : ∀ r, s.recurrence? reading created = some r → r.Chronological F
  start : ∀ r, s.recurrence? reading created = some r → Instant.first < r.start
  lookBack : ∀ r, s.recurrence? reading created = some r →
    (r.openAt F t).encard ≤ reading.limit

theorem isActive_iff_hasWindow (h : s.Foreseen reading created F t) (ht : t ≤ Instant.last) :
    s.isActive reading created t = true ↔
      ∃ v, s.HasWindow reading created F v ∧ v.Contains t := by
  cases hs : s.isRecurring with
  | false =>
    rw [isActive, hs, if_neg Bool.false_ne_true, windowContains_iff]
    simp only [hasWindow_oneShot_iff hs]
    constructor
    · intro hc
      exact ⟨_, ⟨rfl, fun a ha b hb => (hc.1 a ha).trans_lt (hc.2 b hb)⟩, hc⟩
    · rintro ⟨_, ⟨rfl, _⟩, hc⟩
      exact hc
  | true =>
    simp only [hasWindow_recurring_iff hs]
    cases hr : s.recurrence? reading created with
    | none => simp [isActive, hs, hr]
    | some r =>
      rw [isActive_of_recurrence? hr, Recurrence.isSome_openAt?_iff (h.chronological r hr)
        (h.start r hr) ht (h.lookBack r hr)]
      simp only [Option.some.injEq, exists_eq_left']
      constructor
      · rintro ⟨_, hstop, p, hp, hstart, hle, hopen⟩
        exact ⟨_, ⟨p, hp, hstart, fun b hb => hle.trans_lt (hstop b hb), rfl⟩,
          contains_fired_iff.2 ⟨hle, hopen, hstop⟩⟩
      · rintro ⟨_, ⟨p, hp, hstart, _, rfl⟩, hc⟩
        obtain ⟨hle, hopen, hstop⟩ := contains_fired_iff.1 hc
        exact ⟨hstart.trans hle, hstop, p, hp, hstart, hle, hopen⟩

end Schedule

end FeatureFlags
