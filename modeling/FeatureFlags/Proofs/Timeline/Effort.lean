import FeatureFlags.Proofs.Timeline.Bounds

namespace FeatureFlags

open Time

namespace Cron

variable {firings : Enumeration} {keep : Instant → Bool} {bound limit n : Nat} {time : Instant}

namespace Enumeration

/-- All that comes is the front of one list, which a test and a limit only end. -/
def Listed (firings : Enumeration) : Prop :=
  ∀ keep {m n}, m ≤ n → firings keep m = ((firings (fun _ => true) n).takeWhile keep).take m

theorem Listed.length_le (h : firings.Listed) : (firings keep n).length ≤ n := by
  rw [h keep le_rfl]
  exact List.length_take_le _ _

theorem Listed.cut_eq (h : firings.Listed) (hn : n ≤ bound) :
    firings.cut bound keep n = firings keep n :=
  (h keep hn).symm

theorem Listed.latest?_cut (h : firings.Listed) (hlimit : limit < bound) :
    (firings.cut bound).latest? time limit = firings.latest? time limit := by
  rw [latest?, latest?, h.cut_eq hlimit]

end Enumeration

theorem Expression.firingsWhile_listed {e : Expression} {zone : Zone} {after : Instant} :
    Enumeration.Listed (e.firingsWhile zone after) := by
  intro keep m n h
  rw [firingsWhile_nested keep h, firingsWhile_eq_takeWhile]
  rfl

end Cron

def Reading.cut (bound : Nat) (reading : Reading) : Reading :=
  { reading with firings := fun e zone after => (reading.firings e zone after).cut bound }

def Reading.Listed (reading : Reading) : Prop :=
  ∀ e zone after, (reading.firings e zone after).Listed

theorem Config.listed_reading (config : Config) (timezone : Option String) :
    (config.reading timezone).Listed :=
  fun _ _ _ => Cron.Expression.firingsWhile_listed

variable {reading : Reading} {bound limit : Nat} {time created start stop : Instant} {s : Schedule}
  {r : Recurrence}

namespace Recurrence

def cut (bound : Nat) (r : Recurrence) : Recurrence :=
  { r with firingsAfter := fun after => (r.firingsAfter after).cut bound }

def Listed (r : Recurrence) : Prop := ∀ after, (r.firingsAfter after).Listed

theorem Listed.openAt?_cut (h : r.Listed) (hlimit : limit < bound) :
    (r.cut bound).openAt? time limit = r.openAt? time limit := by
  rw [openAt?_eq_filter, openAt?_eq_filter, ← (h (r.horizon time)).latest?_cut hlimit]
  rfl

end Recurrence

namespace Schedule

theorem recurrence?_cut :
    s.recurrence? (reading.cut bound) created =
      (s.recurrence? reading created).map (.cut bound) := by
  simp only [recurrence?]
  cases s.expression? with
  | none => rfl
  | some e =>
    cases s.length? with
    | none => rfl
    | some length => rfl

theorem listed_of_recurrence? (hreading : reading.Listed)
    (hr : s.recurrence? reading created = some r) : r.Listed := by
  obtain ⟨e, _, _, _, rfl⟩ := recurrence?_eq_some_iff.1 hr
  exact hreading e _

theorem isActive_cut (hreading : reading.Listed) (hlimit : reading.limit < bound) :
    s.isActive (reading.cut bound) created time = s.isActive reading created time := by
  rw [isActive, isActive, recurrence?_cut]
  cases hr : s.recurrence? reading created with
  | none => rfl
  | some r =>
    rw [Option.map_some, Option.any_some, Option.any_some,
      ← (listed_of_recurrence? hreading hr).openAt?_cut hlimit]
    rfl

end Schedule

theorem Feature.stateAt_cut (f : Feature) (hreading : reading.Listed)
    (hlimit : reading.limit < bound) :
    f.stateAt (reading.cut bound) time = f.stateAt reading time := by
  simp only [stateAt, Schedule.isActive_cut hreading hlimit]

namespace Timeline

variable {w : Window}

namespace Window

def cut (bound : Nat) (w : Window) : Window := { w with reading := w.reading.cut bound }

theorem carriedOver_cut (h : r.Listed) (hlimit : w.reading.limit < bound) (lo hi : Instant) :
    (w.cut bound).carriedOver (r.cut bound) lo hi = w.carriedOver r lo hi := by
  rw [carriedOver, carriedOver, ← h.openAt?_cut hlimit]
  rfl

theorem told_cut (h : r.Listed) (hlimit : w.reading.limit < bound) :
    (w.cut bound).told s (r.cut bound) = w.told s r :=
  (h _).cut_eq hlimit.le

theorem cutOff_cut (h : r.Listed) (hlimit : w.reading.limit < bound) (hi : Instant) :
    (w.cut bound).cutOff (r.cut bound) hi = w.cutOff r hi := by
  rw [cutOff, cutOff, ← h.openAt?_cut hlimit]
  rfl

theorem expand_cut (hw : w.reading.Listed) (hlimit : w.reading.limit < bound) :
    (w.cut bound).expand s = w.expand s := by
  cases hs : s.isRecurring with
  | false =>
    rw [expand, expand, hs]
    rfl
  | true =>
    have hcut : s.recurrence? (w.cut bound).reading (w.cut bound).created =
        (s.recurrence? w.reading w.created).map (.cut bound) := Schedule.recurrence?_cut
    cases hr : s.recurrence? w.reading w.created with
    | none =>
      rw [hr, Option.map_none] at hcut
      rw [expand_of_malformed hs hcut, expand_of_malformed hs hr]
    | some r =>
      rw [hr, Option.map_some] at hcut
      have hlisted := Schedule.listed_of_recurrence? hw hr
      rw [expand_eq hcut, expand_eq hr, carriedOver_cut hlisted hlimit, told_cut hlisted hlimit,
        cutOff_cut hlisted hlimit]
      rfl

theorem changes_cut (hw : w.reading.Listed) (hlimit : w.reading.limit < bound)
    (schedules : List Schedule) : (w.cut bound).changes schedules = w.changes schedules := by
  have hexpand : (w.cut bound).expand = w.expand := funext fun _ => expand_cut hw hlimit
  rw [changes, changes, hexpand]

end Window

theorem ofReading_cut (f : Feature) (hreading : reading.Listed) (hlimit : reading.limit < bound) :
    ofReading (reading.cut bound) f start stop = ofReading reading f start stop := by
  have hchanges : (window (reading.cut bound) f start stop).changes f.schedules =
      (window reading f start stop).changes f.schedules :=
    Window.changes_cut (w := window reading f start stop) hreading hlimit f.schedules
  refine ofReading_congr rfl rfl ?_
  rw [unsorted, unsorted, f.stateAt_cut hreading hlimit, f.stateAt_cut hreading hlimit, hchanges]

namespace Window

theorem length_closing_le (hi p : Instant) : (w.closing r hi p).length ≤ 1 :=
  Option.length_toList_le

theorem length_carriedOver_le (lo hi : Instant) : (w.carriedOver r lo hi).length ≤ 1 := by
  rw [carriedOver]
  split
  · cases r.openAt? lo w.reading.limit with
    | none => exact Nat.zero_le 1
    | some p => simpa using length_closing_le hi p
  · exact Nat.zero_le 1

theorem length_cutOff_le (hi : Instant) : (w.cutOff r hi).length ≤ 1 := by
  rw [cutOff]
  split
  · exact le_rfl
  · exact Nat.zero_le 1

theorem length_told_le (h : r.Listed) : (w.told s r).length ≤ w.reading.limit :=
  (h _).length_le

theorem length_oneShot_le : (w.oneShot s).length ≤ 2 := by
  rw [oneShot]
  split
  · exact Nat.zero_le 2
  · rw [List.length_append]
    exact Nat.add_le_add Option.length_toList_le Option.length_toList_le

theorem length_occurrences_le (firings : List Instant) (on : Bool) (hi : Instant) :
    (firings.flatMap fun p => (⟨p, on⟩ : Event Instant) :: w.closing r hi p).length ≤
      2 * firings.length := by
  induction firings with
  | nil => exact le_rfl
  | cons p firings ih =>
    have hclosing := length_closing_le (w := w) (r := r) hi p
    rw [List.flatMap_cons, List.length_append, List.length_cons, List.length_cons]
    omega

/-- The most events that a schedule adds to a timeline. -/
def room (limit : Nat) (s : Schedule) : Nat := if s.isRecurring then 2 * limit + 2 else 2

theorem length_expand_le (hw : w.reading.Listed) :
    (w.expand s).length ≤ room w.reading.limit s := by
  cases hs : s.isRecurring with
  | false =>
    rw [expand, room, hs, if_neg Bool.false_ne_true, if_neg Bool.false_ne_true]
    exact length_oneShot_le
  | true =>
    rw [room, hs, if_pos rfl]
    cases hr : s.recurrence? w.reading w.created with
    | none =>
      rw [expand_of_malformed hs hr]
      exact Nat.zero_le _
    | some r =>
      have htold := length_told_le (w := w) (s := s) (Schedule.listed_of_recurrence? hw hr)
      have hcarried := length_carriedOver_le (w := w) (r := r) (w.lo r) (w.hi s)
      have hfired := length_occurrences_le (w := w) (r := r) (w.told s r) s.action.enables (w.hi s)
      have hcut := length_cutOff_le (w := w) (r := r) (w.hi s)
      rw [expand_eq hr]
      split
      · exact Nat.zero_le _
      · rw [List.length_append, List.length_append]
        omega

theorem length_changes_le (hw : w.reading.Listed) (schedules : List Schedule) :
    (w.changes schedules).length ≤
      2 * schedules.countP (!·.isRecurring) +
        (2 * w.reading.limit + 2) * schedules.countP (·.isRecurring) := by
  induction schedules with
  | nil => exact le_rfl
  | cons s schedules ih =>
    have hexpand := length_expand_le (s := s) hw
    rw [changes, List.flatMap_cons, List.length_append, List.countP_cons, List.countP_cons]
    rw [changes] at ih
    cases hs : s.isRecurring with
    | false =>
      simp only [room, hs, Bool.false_eq_true, if_false, Bool.not_false, if_true, Nat.add_zero]
        at hexpand ⊢
      omega
    | true =>
      simp only [room, hs, if_true, Bool.not_true, Bool.false_eq_true, if_false, Nat.mul_add,
        Nat.mul_one, Nat.add_zero] at hexpand ih ⊢
      omega

end Window

variable {config : Config} {f : Feature} {timezone : Option String}

theorem length_unsorted_le (hreading : reading.Listed) :
    (unsorted reading f start stop).length ≤
      2 + 2 * f.schedules.countP (!·.isRecurring) +
        (2 * reading.limit + 2) * f.schedules.countP (·.isRecurring) := by
  have hchanges := Window.length_changes_le (w := window reading f start stop) hreading f.schedules
  have hlimit : (window reading f start stop).reading.limit = reading.limit := rfl
  rw [hlimit] at hchanges
  rw [unsorted, List.length_append, List.length_cons, List.length_singleton]
  omega

theorem exists_build_length_le (config : Config) (f : Feature) (timezone : Option String)
    (hle : start ≤ stop) :
    ∃ events, build config f start stop timezone = .ok events ∧
      events.length ≤ 2 + 2 * f.schedules.countP (!·.isRecurring) +
        (2 * config.maxOccurrences.toNat + 2) * f.schedules.countP (·.isRecurring) := by
  have hpair : 2 ≤ 2 + 2 * f.schedules.countP (!·.isRecurring) +
      (2 * config.maxOccurrences.toNat + 2) * f.schedules.countP (·.isRecurring) := by
    rw [Nat.add_assoc]
    exact Nat.le_add_right 2 _
  cases hon : f.enabled with
  | false => exact ⟨_, build_of_disabled hle hon, hpair⟩
  | true =>
    by_cases hs : f.schedules = []
    · exact ⟨_, build_of_nil hle hon hs, hpair⟩
    · refine ⟨_, build_eq hle hon hs, ?_⟩
      rw [(sort_perm _).length_eq]
      exact length_unsorted_le (config.listed_reading timezone)

/-- A timeline has no more events than its ends, the ends of single windows and, for each schedule
that recurs, as many firings as the limit allows take up. No search would notice if firings ended
with the first one after the limit. -/
theorem build_effort (config : Config) (f : Feature) (timezone : Option String)
    (hle : start ≤ stop) :
    (∃ events, build config f start stop timezone = .ok events ∧
      events.length ≤ 2 + 2 * f.schedules.countP (!·.isRecurring) +
        (2 * config.maxOccurrences.toNat + 2) * f.schedules.countP (·.isRecurring)) ∧
      ofReading ((config.reading timezone).cut (config.maxOccurrences.toNat + 1)) f start stop =
        build config f start stop timezone ∧
      ∀ (zone : Zone) (limit : Nat) (time : Instant),
        f.stateAt (Reading.cut (limit + 1) { zone, limit }) time = f.stateAt { zone, limit } time ∧
          ∀ (s : Schedule) (created : Instant),
            s.isActive (Reading.cut (limit + 1) { zone, limit }) created time =
              s.isActive { zone, limit } created time := by
  refine ⟨exists_build_length_le config f timezone hle, ?_, ?_⟩
  · exact ofReading_cut f (config.listed_reading timezone) (Nat.lt_succ_self _)
  · intro zone limit time
    have hreading : Reading.Listed { zone, limit } := fun _ _ _ =>
      Cron.Expression.firingsWhile_listed
    have hlimit := Nat.lt_succ_self limit
    exact ⟨f.stateAt_cut hreading hlimit, fun _ _ => Schedule.isActive_cut hreading hlimit⟩

def oneAtATime : Config := { Config.default with maxOccurrences := 1 }

def nightShift : Feature :=
  ((Feature.boolean ⟨1⟩ ⟨2⟩ "night-shift" ⟨.ofYear 2018, false, by decide⟩).addSchedule
    ⟨⟨3⟩, none, some ⟨.ofSeconds 1704164700, false, by decide⟩, some "0 * * * *", some 600, none,
      .enable⟩).addSchedule
    (.oneShot ⟨4⟩ .enable (some ⟨.ofSeconds 1704159000, false, by decide⟩)
      (some ⟨.ofSeconds 1704162600, false, by decide⟩))

theorem build_nightShift_effort :
    Instant.ofSeconds 1704153900 ≤ .ofSeconds 1704171600 ∧
      ∃ events, build oneAtATime nightShift (.ofSeconds 1704153900) (.ofSeconds 1704171600) none =
          .ok events ∧
        events.length = 2 + 2 * 1 + (2 * 1 + 2) * 1 ∧
        ofReading ((oneAtATime.reading none).cut 2) nightShift (.ofSeconds 1704153900)
          (.ofSeconds 1704171600) = .ok events := by
  have hle : Instant.ofSeconds 1704153900 ≤ .ofSeconds 1704171600 := by decide
  obtain ⟨⟨events, hbuild, hmost⟩, hcut, _⟩ := build_effort oneAtATime nightShift none hle
  have hunsorted : build oneAtATime nightShift (.ofSeconds 1704153900) (.ofSeconds 1704171600)
      none = .ok (sort (unsorted (oneAtATime.reading none) nightShift (.ofSeconds 1704153900)
        (.ofSeconds 1704171600))) := build_eq hle rfl (by decide)
  have hleast : 8 ≤ events.length := by
    rw [Except.ok.inj (hbuild.symm.trans hunsorted), (sort_perm _).length_eq]
    decide
  exact ⟨hle, events, hbuild, le_antisymm hmost hleast, hcut.trans hbuild⟩

end Timeline

end FeatureFlags
