import FeatureFlags.Proofs.Schedule.Activity
import FeatureFlags.Proofs.Timeline.Order

namespace FeatureFlags.Timeline.Window

open Time

variable {w : Window} {s : Schedule} {r : Recurrence} {e : Event Instant} {p bound : Instant}

/-- Where the stretch of a recurring schedule begins that a window tells. -/
def lo (w : Window) (r : Recurrence) : Instant := w.start.later r.start

/-- Where the stretch of a recurring schedule ends that a window tells. -/
def hi (w : Window) (s : Schedule) : Instant :=
  match s.end? with
  | some stop => stop.earlier w.stop
  | none => w.stop

/-- After what the firings are told. One at the start of the window has been told. -/
def after (w : Window) (r : Recurrence) : Instant :=
  if w.start < w.lo r then ⟨(w.lo r).nanos - 1⟩ else w.lo r

def told (w : Window) (s : Schedule) (r : Recurrence) : List Instant :=
  r.firingsAfter (w.after r) (· < w.hi s) w.reading.limit

theorem expand_eq (hr : s.recurrence? w.reading w.created = some r) :
    w.expand s =
      if w.hi s ≤ w.lo r then []
      else w.carriedOver r (w.lo r) (w.hi s) ++
        (w.told s r).flatMap (fun p => ⟨p, s.action.enables⟩ :: w.closing r (w.hi s) p) ++
        w.cutOff r (w.hi s) := by
  obtain ⟨_, _, he, _⟩ := Schedule.recurrence?_eq_some_iff.1 hr
  rw [expand, Schedule.isRecurring_of_expression? he, if_pos rfl, recurring, hr]
  rfl

theorem expand_of_malformed (hs : s.isRecurring = true)
    (hr : s.recurrence? w.reading w.created = none) : w.expand s = [] := by
  rw [expand, if_pos hs, recurring, hr]

theorem inside_iff {t : Instant} : w.inside t = true ↔ w.start < t ∧ t < w.stop := by
  rw [inside, Bool.and_eq_true, decide_eq_true_eq, decide_eq_true_eq]

theorem lo_eq_max : w.lo r = max w.start r.start := Instant.later_eq_max _ _

theorem hi_le_stop : w.hi s ≤ w.stop := by
  rw [hi]
  split
  · rw [Instant.earlier_eq_min]
    exact min_le_right _ _
  · exact le_rfl

theorem lt_hi_iff : p < w.hi s ↔ p < w.stop ∧ ∀ stop ∈ s.end?, p < stop := by
  rw [hi]
  cases s.end? with
  | none => simp
  | some stop => simp [Instant.earlier_eq_min, and_comm]

/-- What a recurring schedule tells of the stretch before `hi`. -/
inductive Tells (w : Window) (s : Schedule) (r : Recurrence) : Event Instant → Prop where
  /-- The end of a window that is open at the start. -/
  | carriedOver {p time : Instant} (hlo : w.lo r = w.start)
      (hp : r.openAt? w.start w.reading.limit = some p) (htime : r.end? p = some time)
      (hlt : time < w.hi s) : Tells w s r ⟨time, w.baseline⟩
  | firing {p : Instant} (hp : p ∈ w.told s r) : Tells w s r ⟨p, s.action.enables⟩
  /-- The end of the window of a firing. -/
  | closing {p time : Instant} (hp : p ∈ w.told s r) (htime : r.end? p = some time)
      (hlt : time < w.hi s) : Tells w s r ⟨time, w.baseline⟩
  /-- The end of the schedule while a window is open. -/
  | cutOff {p : Instant} (hlt : w.hi s < w.stop)
      (hp : r.openAt? ⟨(w.hi s).nanos - 1⟩ w.reading.limit = some p)
      (hend : ∀ time ∈ r.end? p, w.hi s ≤ time) : Tells w s r ⟨w.hi s, w.baseline⟩

theorem mem_closing : e ∈ w.closing r bound p ↔
    ∃ time, r.end? p = some time ∧ time < bound ∧ e = ⟨time, w.baseline⟩ := by
  simp only [closing, Option.mem_toList, Option.map_eq_some_iff, Option.filter_eq_some_iff,
    decide_eq_true_eq, and_assoc]
  exact exists_congr fun _ => and_congr_right fun _ => and_congr_right fun _ => eq_comm

theorem mem_carriedOver : e ∈ w.carriedOver r (w.lo r) bound ↔
    w.lo r = w.start ∧ ∃ p, r.openAt? w.start w.reading.limit = some p ∧
      e ∈ w.closing r bound p := by
  rw [carriedOver]
  split
  · next h => simp only [h, true_and, List.mem_flatMap, Option.mem_toList]
  · next h => simp [h]

theorem mem_cutOff : e ∈ w.cutOff r bound ↔
    e = ⟨bound, w.baseline⟩ ∧ bound < w.stop ∧
      ∃ p, r.openAt? ⟨bound.nanos - 1⟩ w.reading.limit = some p ∧
        ∀ time ∈ r.end? p, bound ≤ time := by
  simp only [cutOff, List.mem_ite_nil_right, List.mem_singleton, Option.any_eq_true,
    Option.all_eq_true, decide_eq_true_eq, Option.mem_def]
  exact and_comm

theorem mem_expand_iff (hr : s.recurrence? w.reading w.created = some r) :
    e ∈ w.expand s ↔ w.lo r < w.hi s ∧ Tells w s r e := by
  rw [expand_eq hr]
  split
  · next hle => simp [hle]
  · next hlt =>
    simp only [not_le.1 hlt, true_and, List.mem_append, List.mem_flatMap, List.mem_cons]
    constructor
    · rintro ((hmem | ⟨p, hp, rfl | hmem⟩) | hmem)
      · obtain ⟨hlo, p, hp, hmem⟩ := mem_carriedOver.1 hmem
        obtain ⟨time, htime, hbound, rfl⟩ := mem_closing.1 hmem
        exact .carriedOver hlo hp htime hbound
      · exact .firing hp
      · obtain ⟨time, htime, hbound, rfl⟩ := mem_closing.1 hmem
        exact .closing hp htime hbound
      · obtain ⟨rfl, hstop, p, hp, hend⟩ := mem_cutOff.1 hmem
        exact .cutOff hstop hp hend
    · intro htells
      cases htells with
      | carriedOver hlo hp htime hbound =>
        exact .inl (.inl (mem_carriedOver.2 ⟨hlo, _, hp, mem_closing.2 ⟨_, htime, hbound, rfl⟩⟩))
      | firing hp => exact .inl (.inr ⟨_, hp, .inl rfl⟩)
      | closing hp htime hbound =>
        exact .inl (.inr ⟨_, hp, .inr (mem_closing.2 ⟨_, htime, hbound, rfl⟩)⟩)
      | cutOff hstop hp hend => exact .inr (mem_cutOff.2 ⟨rfl, hstop, _, hp, hend⟩)

theorem mem_expand_oneShot_iff (hs : s.isRecurring = false) :
    e ∈ w.expand s ↔ (∀ a ∈ s.start?, ∀ b ∈ s.end?, a < b) ∧ w.inside e.time = true ∧
      (s.start? = some e.time ∧ e = ⟨e.time, s.action.enables⟩ ∨
        s.end? = some e.time ∧ e = ⟨e.time, w.baseline⟩) := by
  have hempty : (s.start?.any fun start => s.end?.any (· ≤ start)) = true ↔
      ¬ ∀ a ∈ s.start?, ∀ b ∈ s.end?, a < b := by
    simp only [Option.any_eq_true, decide_eq_true_eq, Option.mem_def, not_forall, not_lt,
      exists_prop]
  rw [expand, hs, if_neg Bool.false_ne_true, oneShot]
  split
  · next h =>
    rw [hempty] at h
    simp only [h, false_and, List.not_mem_nil]
  · next h =>
    rw [hempty, not_not] at h
    simp only [List.mem_append, Option.mem_toList, Option.map_eq_some_iff,
      Option.filter_eq_some_iff]
    constructor
    · rintro (⟨t, ⟨ht, hin⟩, rfl⟩ | ⟨t, ⟨ht, hin⟩, rfl⟩)
      · exact ⟨h, hin, .inl ⟨ht, rfl⟩⟩
      · exact ⟨h, hin, .inr ⟨ht, rfl⟩⟩
    · rintro ⟨_, hin, ⟨ht, he⟩ | ⟨ht, he⟩⟩
      · exact .inl ⟨_, ⟨ht, hin⟩, he.symm⟩
      · exact .inr ⟨_, ⟨ht, hin⟩, he.symm⟩

theorem start_le_lo : w.start ≤ w.lo r := by
  rw [lo_eq_max]
  exact le_max_left _ _

theorem told_lt_hi (hw : w.reading.firings = Cron.Expression.firingsWhile)
    (hr : s.recurrence? w.reading w.created = some r) (hp : p ∈ w.told s r) : p < w.hi s := by
  obtain ⟨e, length, _, _, rfl⟩ := Schedule.recurrence?_eq_some_iff.1 hr
  simp only [told, hw, Cron.Expression.firingsWhile_eq_takeWhile] at hp
  exact of_decide_eq_true (List.all_eq_true.1 List.all_takeWhile p hp)

theorem Tells.lt_stop (hw : w.reading.firings = Cron.Expression.firingsWhile)
    (hr : s.recurrence? w.reading w.created = some r) (h : Tells w s r e) : e.time < w.stop := by
  cases h with
  | carriedOver hlo hp htime hlt => exact hlt.trans_le hi_le_stop
  | firing hp => exact (told_lt_hi hw hr hp).trans_le hi_le_stop
  | closing hp htime hlt => exact hlt.trans_le hi_le_stop
  | cutOff hlt hp hend => exact hlt

/-- What comes at the start of the window or before it goes back to a firing that does. -/
theorem Tells.start_lt_or (hlt : w.lo r < w.hi s) (h : Tells w s r e) :
    w.start < e.time ∨ ∃ p ∈ w.told s r, p ≤ e.time := by
  cases h with
  | carriedOver hlo hp htime hlt => exact .inl (Recurrence.lt_of_openAt? hp htime)
  | firing hp => exact .inr ⟨_, hp, le_rfl⟩
  | closing hp htime hlt => exact .inr ⟨_, hp, Recurrence.le_of_end? htime⟩
  | cutOff _ hp hend => exact .inl (start_le_lo.trans_lt hlt)

theorem start_lt_expand
    (htold : ∀ r, s.recurrence? w.reading w.created = some r → ∀ p ∈ w.told s r, w.start < p)
    (he : e ∈ w.expand s) : w.start < e.time := by
  cases hs : s.isRecurring with
  | false => exact (inside_iff.1 ((mem_expand_oneShot_iff hs).1 he).2.1).1
  | true =>
    cases hr : s.recurrence? w.reading w.created with
    | none => simp [expand_of_malformed hs hr] at he
    | some r =>
      obtain ⟨hlt, htells⟩ := (mem_expand_iff hr).1 he
      rcases htells.start_lt_or hlt with h | ⟨p, hp, hle⟩
      · exact h
      · exact (htold r hr p hp).trans_le hle

theorem expand_lt_stop (hw : w.reading.firings = Cron.Expression.firingsWhile)
    (he : e ∈ w.expand s) : e.time < w.stop := by
  cases hs : s.isRecurring with
  | false => exact (inside_iff.1 ((mem_expand_oneShot_iff hs).1 he).2.1).2
  | true =>
    cases hr : s.recurrence? w.reading w.created with
    | none => simp [expand_of_malformed hs hr] at he
    | some r => exact ((mem_expand_iff hr).1 he).2.lt_stop hw hr

end FeatureFlags.Timeline.Window
