import FeatureFlags.Proofs.Schedule.Windows
import FeatureFlags.Proofs.Timeline.Expansion

namespace FeatureFlags.Timeline

open Time

namespace Window

open Cron

variable {w : Window} {s : Schedule} {r : Recurrence} {e : Event Instant} {p t u : Instant}
  {F : Set Instant} {v : Stretch}

/-- The firings that a window has to tell. -/
def due (w : Window) (s : Schedule) (r : Recurrence) (F : Set Instant) : Set Instant :=
  {p ∈ F | w.start < p ∧ r.start ≤ p ∧ p < w.hi s}

/-- The firings of a recurring schedule come in order, and the window has room for them. -/
structure Covers (w : Window) (s : Schedule) (F : Set Instant) : Prop where
  lists : ∀ r, s.recurrence? w.reading w.created = some r →
    (r.firingsAfter (w.after r)).Lists {t ∈ F | w.after r < t}
  room : ∀ r, s.recurrence? w.reading w.created = some r →
    (w.due s r F).encard ≤ w.reading.limit

theorem after_lt_iff : w.after r < p ↔ w.start < p ∧ r.start ≤ p := by
  rw [after, lo_eq_max]
  split
  · next h =>
    have hlt : w.start < r.start := (lt_max_iff.1 h).resolve_left (lt_irrefl _)
    rw [max_eq_right hlt.le]
    simp only [Instant.lt_iff, Instant.le_iff] at *
    omega
  · next h =>
    have hle : r.start ≤ w.start := (max_le_iff.1 (not_lt.1 h)).2
    rw [max_eq_left hle]
    exact ⟨fun hp => ⟨hp, hle.trans hp.le⟩, And.left⟩

theorem encard_due_le (hF : ∀ t ∈ F, t.Whole) :
    (w.due s r F).encard ≤ (w.stop.seconds - w.start.seconds).toNat := by
  apply Instant.encard_whole_le
  rintro t ⟨ht, hstart, _, hhi⟩
  refine ⟨hF t ht, ?_, Instant.seconds_mono (hhi.trans_le hi_le_stop).le⟩
  rwa [Instant.whole_iff.1 (hF t ht), Instant.lt_ofSeconds_iff] at hstart

theorem told_firstOf (h : (r.firingsAfter (w.after r)).Lists {t ∈ F | w.after r < t}) :
    FirstOf w.reading.limit (w.due s r F) (w.told s r) := by
  have hset : w.due s r F = {t ∈ {t ∈ F | w.after r < t} | decide (t < w.hi s) = true} := by
    ext t
    simp only [due, Set.mem_ofPred_eq, after_lt_iff, decide_eq_true_eq, and_assoc]
  rw [hset]
  apply h.firstOf
  intro t u htu hu
  rw [decide_eq_true_eq] at *
  exact htu.trans hu

theorem Covers.told_sorted (h : w.Covers s F) (hr : s.recurrence? w.reading w.created = some r) :
    (w.told s r).Pairwise (· < ·) :=
  (told_firstOf (h.lists r hr)).sorted

theorem Covers.mem_told_iff (h : w.Covers s F)
    (hr : s.recurrence? w.reading w.created = some r) : p ∈ w.told s r ↔ p ∈ w.due s r F :=
  (told_firstOf (h.lists r hr)).mem_iff (h.room r hr)

theorem lo_lt_hi_of_due (hp : p ∈ w.due s r F) : w.lo r < w.hi s := by
  obtain ⟨_, hstart, hr, hlt⟩ := hp
  rw [lo_eq_max]
  exact (max_le hstart.le hr).trans_lt hlt

theorem lastAt_occurrences {l : List Instant} {on : Bool} {bound : Instant}
    (hl : l.Pairwise (· < ·)) (hlength : 0 < r.length.nanos) (hp : p ∈ l) :
    lastAt (l.flatMap fun q => ⟨q, on⟩ :: w.closing r bound q) p = some ⟨p, on⟩ := by
  have hclosing {q : Instant} (hq : p ≤ q) : ∀ e ∈ w.closing r bound q, e.time ≠ p := by
    intro e he
    obtain ⟨time, htime, _, rfl⟩ := mem_closing.1 he
    have hlt : p < time := by
      rw [Instant.le_iff] at hq
      rw [Instant.lt_iff, (Recurrence.end?_eq_some_iff.1 htime).2]
      omega
    exact hlt.ne'
  obtain ⟨before, later, rfl⟩ := List.append_of_mem hp
  have hlater : ∀ q ∈ later, p < q := (List.pairwise_cons.1 (List.pairwise_append.1 hl).2.1).1
  have hrest : lastAt (later.flatMap fun q => ⟨q, on⟩ :: w.closing r bound q) p = none := by
    rw [lastAt_eq_none_iff]
    intro e he
    obtain ⟨q, hq, he⟩ := List.mem_flatMap.1 he
    rcases List.mem_cons.1 he with rfl | he
    · exact (hlater q hq).ne'
    · exact hclosing (hlater q hq).le e he
  rw [List.flatMap_append, List.flatMap_cons, lastAt_append, lastAt_append, hrest, Option.none_or,
    ← List.singleton_append, lastAt_append, lastAt_eq_none_iff.2 (hclosing le_rfl), Option.none_or]
  simp [lastAt]

theorem lastAt_expand_of_told (h : w.Covers s F)
    (hr : s.recurrence? w.reading w.created = some r) (hp : p ∈ w.told s r) :
    lastAt (w.expand s) p = some ⟨p, s.action.enables⟩ := by
  have hdue := (h.mem_told_iff hr).1 hp
  have hcut : lastAt (w.cutOff r (w.hi s)) p = none := by
    rw [lastAt_eq_none_iff]
    intro e he
    rw [(mem_cutOff.1 he).1]
    exact hdue.2.2.2.ne'
  rw [expand_eq hr, if_neg (not_le.2 (lo_lt_hi_of_due hdue)), lastAt_append, hcut, Option.none_or,
    lastAt_append, lastAt_occurrences (h.told_sorted hr) (Schedule.length_pos hr) hp,
    Option.some_or]

theorem Tells.enabled (h : Tells w s r e) (ht : e.time ∉ w.told s r) : e.enabled = w.baseline := by
  cases h with
  | carriedOver => rfl
  | firing hp => exact absurd hp ht
  | closing => rfl
  | cutOff => rfl

/-- What a schedule says where something of it happens: what it is for if it opens a window, and the
baseline if not. -/
def Word (w : Window) (s : Schedule) (F : Set Instant) (t : Instant) (b : Bool) : Prop :=
  (s.Opens w.reading w.created F t → b = s.action.enables) ∧
    (¬ s.Opens w.reading w.created F t → b = w.baseline)

theorem Word.unique {a b : Bool} (ha : w.Word s F t a) (hb : w.Word s F t b) : a = b := by
  by_cases h : s.Opens w.reading w.created F t
  · rw [ha.1 h, hb.1 h]
  · rw [ha.2 h, hb.2 h]

theorem Covers.word (h : w.Covers s F) (he : lastAt (w.expand s) t = some e)
    (hstart : w.start < t) (hstop : t < w.stop) : w.Word s F t e.enabled := by
  obtain ⟨hmem, rfl⟩ := lastAt_mem he
  cases hs : s.isRecurring with
  | false =>
    obtain ⟨hne, _, hends⟩ := (mem_expand_oneShot_iff hs).1 hmem
    rw [Word, Schedule.opens_oneShot_iff hs]
    rcases hends with ⟨hstart, hon⟩ | ⟨hstop, hoff⟩
    · rw [hon]
      exact ⟨fun _ => rfl, fun hnot => absurd ⟨hstart, hne _ hstart⟩ hnot⟩
    · rw [hoff]
      exact ⟨fun hopens => absurd (hopens.2 _ hstop) (lt_irrefl _), fun _ => rfl⟩
  | true =>
    cases hr : s.recurrence? w.reading w.created with
    | none => simp [expand_of_malformed hs hr] at hmem
    | some r =>
      have htells := ((mem_expand_iff hr).1 hmem).2
      rw [Word, Schedule.opens_iff_of_recurrence? hr]
      by_cases ht : e.time ∈ w.told s r
      · rw [lastAt_expand_of_told h hr ht, Option.some.injEq] at he
        obtain ⟨hF, _, hrstart, hhi⟩ := (h.mem_told_iff hr).1 ht
        rw [← he]
        exact ⟨fun _ => rfl, fun hnot => absurd ⟨hF, hrstart, (lt_hi_iff.1 hhi).2⟩ hnot⟩
      · refine ⟨fun hopens => absurd ?_ ht, fun _ => htells.enabled ht⟩
        obtain ⟨hF, hrstart, hend⟩ := hopens
        exact (h.mem_told_iff hr).2 ⟨hF, hstart, hrstart, lt_hi_iff.2 ⟨hstop, hend⟩⟩

/-- The last-listed schedule that tells something of a time. -/
def speaker? (w : Window) (schedules : List Schedule) (t : Instant) : Option Schedule :=
  schedules.reverse.find? fun s => (lastAt (w.expand s) t).isSome

theorem speaker?_mem {schedules : List Schedule} (h : w.speaker? schedules t = some s) :
    s ∈ schedules :=
  List.mem_reverse.1 (List.mem_of_find?_eq_some h)

theorem lastAt_changes {schedules : List Schedule}
    (he : lastAt (w.changes schedules) t = some e) :
    ∃ k, w.speaker? schedules t = some k ∧ lastAt (w.expand k) t = some e := by
  rw [changes, lastAt_flatMap, List.findSome?_eq_some_iff] at he
  obtain ⟨later, k, before, hl, hk, hnone⟩ := he
  have hsilent : ∀ s ∈ later, (!(lastAt (w.expand s) t).isSome) = true := by
    intro s hs
    rw [hnone s hs]
    rfl
  refine ⟨k, List.find?_eq_some_iff_append.2 ⟨?_, later, before, hl, hsilent⟩, hk⟩
  rw [hk]
  rfl

end Window

variable {f : Feature} {reading : Reading} {start stop t : Instant} {e : Event Instant}

/-- The last event of a time tells the state at the ends of the window, and inside it is the last
word of the last-listed schedule that says something. -/
theorem lastAt_unsorted_cases (hw : reading.firings = Cron.Expression.firingsWhile)
    (hstart : ∀ s ∈ f.schedules, ∀ e ∈ (window reading f start stop).expand s, start < e.time)
    (he : lastAt (unsorted reading f start stop) t = some e) :
    ¬ (start < t ∧ t < stop) ∧ e.enabled = f.stateAt reading t ∨
      start < t ∧ t < stop ∧ ∃ k, (window reading f start stop).speaker? f.schedules t = some k ∧
        lastAt ((window reading f start stop).expand k) t = some e := by
  obtain ⟨hmem, rfl⟩ := lastAt_mem he
  rcases mem_unsorted.1 hmem with rfl | ⟨s, hs, hmem⟩ | rfl
  · exact .inl ⟨fun h => lt_irrefl _ h.1, rfl⟩
  · have hlo := hstart s hs e hmem
    have hhi : e.time < stop := Window.expand_lt_stop hw hmem
    rw [lastAt_unsorted_inside hlo hhi] at he
    exact .inr ⟨hlo, hhi, Window.lastAt_changes he⟩
  · exact .inl ⟨fun h => lt_irrefl _ h.2, rfl⟩

end FeatureFlags.Timeline
