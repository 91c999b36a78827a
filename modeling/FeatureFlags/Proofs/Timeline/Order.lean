import FeatureFlags.Feature.Timeline
import FeatureFlags.Proofs.Sorting
import FeatureFlags.Proofs.Time.Order

namespace FeatureFlags.Timeline

open Time

variable {events : List (Event Instant)} {e : Event Instant} {time start stop : Instant}

def Sorted (events : List (Event Instant)) : Prop :=
  events.Pairwise fun a b => a.time ≤ b.time

theorem sort_perm (events : List (Event Instant)) : (sort events).Perm events :=
  List.mergeSort_perm _ _

theorem mem_sort : e ∈ sort events ↔ e ∈ events :=
  (sort_perm events).mem_iff

theorem sort_eq_sortOn (events : List (Event Instant)) :
    sort events = Sorting.sortOn Event.time events := rfl

theorem sort_sorted (events : List (Event Instant)) : Sorted (sort events) :=
  Sorting.sortOn_sorted Event.time events

def lastAt (events : List (Event Instant)) (time : Instant) : Option (Event Instant) :=
  (events.filter (·.time = time)).getLast?

def lastUntil (events : List (Event Instant)) (time : Instant) : Option (Event Instant) :=
  (events.filter (·.time ≤ time)).getLast?

theorem lastAt_mem (h : lastAt events time = some e) : e ∈ events ∧ e.time = time := by
  have hmem := List.mem_filter.1 (List.mem_of_getLast? h)
  exact ⟨hmem.1, of_decide_eq_true hmem.2⟩

theorem exists_lastAt (h : e ∈ events) : ∃ e', lastAt events e.time = some e' := by
  have hne : events.filter (·.time = e.time) ≠ [] :=
    List.ne_nil_of_mem (List.mem_filter.2 ⟨h, decide_eq_true rfl⟩)
  exact ⟨_, List.getLast?_eq_getLast_of_ne_nil hne⟩

theorem lastAt_eq_none_iff : lastAt events time = none ↔ ∀ e ∈ events, e.time ≠ time := by
  simp only [lastAt, List.getLast?_eq_none_iff, List.filter_eq_nil_iff, decide_eq_true_eq, ne_eq]

theorem lastAt_append (before events : List (Event Instant)) (time : Instant) :
    lastAt (before ++ events) time = (lastAt events time).or (lastAt before time) := by
  rw [lastAt, List.filter_append, List.getLast?_append]
  rfl

theorem lastAt_flatMap {α : Type} (f : α → List (Event Instant)) (l : List α) (time : Instant) :
    lastAt (l.flatMap f) time = l.reverse.findSome? fun a => lastAt (f a) time := by
  rw [lastAt, List.filter_flatMap, List.getLast?_flatMap]
  rfl

theorem filter_sort (keep : Event Instant → Bool) (events : List (Event Instant)) :
    (sort events).filter keep = sort (events.filter keep) :=
  Sorting.filter_sortOn keep Event.time events

theorem lastAt_sort : lastAt (sort events) time = lastAt events time := by
  rw [lastAt, sort_eq_sortOn]
  exact congrArg List.getLast? (Sorting.under_sortOn Event.time time events)

theorem lastUntil_eq (h : lastUntil events time = some e) :
    ∃ earlier, events.filter (·.time ≤ time) = earlier ++ [e] ∧ e ∈ events ∧ e.time ≤ time := by
  obtain ⟨earlier, he⟩ := List.getLast?_eq_some_iff.1 h
  have hmem : e ∈ events.filter (·.time ≤ time) := by
    rw [he]
    exact List.mem_append_right _ List.mem_cons_self
  rw [List.mem_filter, decide_eq_true_eq] at hmem
  exact ⟨earlier, he, hmem⟩

theorem lastAt_of_lastUntil (h : lastUntil events time = some e) :
    lastAt events e.time = some e := by
  obtain ⟨earlier, he, _, hle⟩ := lastUntil_eq h
  have hfilter : events.filter (·.time = e.time) =
      (events.filter (·.time ≤ time)).filter (·.time = e.time) := by
    rw [List.filter_filter]
    apply List.filter_congr
    intro e' _
    rw [Bool.eq_iff_iff, Bool.and_eq_true, decide_eq_true_eq, decide_eq_true_eq]
    exact ⟨fun h => ⟨h, h ▸ hle⟩, And.left⟩
  rw [lastAt, hfilter, he, List.filter_append, List.getLast?_append]
  simp

/-- In order, no event between the last one and the time is left out. -/
theorem le_of_lastUntil (hs : Sorted events) (h : lastUntil events time = some e)
    {e' : Event Instant} (he' : e' ∈ events) (hle : e'.time ≤ time) : e'.time ≤ e.time := by
  obtain ⟨earlier, he, _⟩ := lastUntil_eq h
  have hs' : Sorted (earlier ++ [e]) := he ▸ List.Pairwise.filter _ hs
  have hmem : e' ∈ earlier ++ [e] := he ▸ List.mem_filter.2 ⟨he', decide_eq_true hle⟩
  rcases List.mem_append.1 hmem with hmem | hmem
  · exact (List.pairwise_append.1 hs').2.2 e' hmem e List.mem_cons_self
  · rw [List.mem_singleton.1 hmem]

theorem exists_lastUntil (he : e ∈ events) (hle : e.time ≤ time) :
    ∃ e', lastUntil events time = some e' := by
  have hne : events.filter (·.time ≤ time) ≠ [] :=
    List.ne_nil_of_mem (List.mem_filter.2 ⟨he, decide_eq_true hle⟩)
  exact ⟨_, List.getLast?_eq_getLast_of_ne_nil hne⟩

/-- Between events at its ends a timeline begins and ends with them. -/
theorem Sorted.head_time (hs : Sorted events) (he : e ∈ events)
    (hle : ∀ e' ∈ events, e.time ≤ e'.time) : events.head?.map Event.time = some e.time := by
  cases events with
  | nil => cases he
  | cons first rest =>
    have hfirst : first.time ≤ e.time := by
      rcases List.mem_cons.1 he with rfl | he
      · exact le_rfl
      · exact (List.pairwise_cons.1 hs).1 e he
    rw [List.head?_cons, Option.map_some, le_antisymm hfirst (hle first List.mem_cons_self)]

theorem Sorted.getLast_time (hs : Sorted events) (he : e ∈ events)
    (hle : ∀ e' ∈ events, e'.time ≤ e.time) : events.getLast?.map Event.time = some e.time := by
  cases hl : events.getLast? with
  | none =>
    rw [List.getLast?_eq_none_iff.1 hl] at he
    cases he
  | some last =>
    obtain ⟨earlier, rfl⟩ := List.getLast?_eq_some_iff.1 hl
    have hlast : e.time ≤ last.time := by
      rcases List.mem_append.1 he with he | he
      · exact (List.pairwise_append.1 hs).2.2 e he last List.mem_cons_self
      · rw [List.mem_singleton.1 he]
    rw [Option.map_some, le_antisymm hlast (hle last (by simp))]

variable {config : Config} {f : Feature} {timezone : Option String} {reading : Reading}

/-- What the expansions of a feature's schedules share. -/
def window (reading : Reading) (f : Feature) (start stop : Instant) : Window :=
  ⟨start, stop, f.created, Schedule.baseline f.schedules, reading⟩

def unsorted (reading : Reading) (f : Feature) (start stop : Instant) : List (Event Instant) :=
  ⟨start, f.stateAt reading start⟩ :: (window reading f start stop).changes f.schedules ++
    [⟨stop, f.stateAt reading stop⟩]

/-- A timeline depends on nothing but the master switch, whether there are schedules, and the events
before they are sorted. -/
theorem ofReading_congr {f' : Feature} {reading' : Reading} (hon : f'.enabled = f.enabled)
    (hempty : f'.schedules.isEmpty = f.schedules.isEmpty)
    (h : unsorted reading' f' start stop = unsorted reading f start stop) :
    ofReading reading' f' start stop = ofReading reading f start stop := by
  simp only [unsorted, window] at h
  simp only [ofReading, hon, hempty, h]

theorem build_of_lt (hlt : stop < start) :
    build config f start stop timezone = .error ⟨start, stop⟩ := by
  rw [build, ofReading, if_pos hlt]

theorem build_of_disabled (hle : start ≤ stop) (hoff : f.enabled = false) :
    build config f start stop timezone = .ok [⟨start, false⟩, ⟨stop, false⟩] := by
  rw [build, ofReading, if_neg (not_lt.2 hle), hoff]
  rfl

theorem build_eq (hle : start ≤ stop) (hon : f.enabled = true) (hs : f.schedules ≠ []) :
    build config f start stop timezone =
      .ok (sort (unsorted (config.reading timezone) f start stop)) := by
  rw [build, ofReading, if_neg (not_lt.2 hle), hon, Bool.not_true, if_neg Bool.false_ne_true,
    if_neg (by simpa using hs)]
  rfl

theorem build_of_nil (hle : start ≤ stop) (hon : f.enabled = true) (hs : f.schedules = []) :
    build config f start stop timezone = .ok [⟨start, true⟩, ⟨stop, true⟩] := by
  rw [build, ofReading, if_neg (not_lt.2 hle), hon, hs]
  rfl

theorem enabled_of_lastAt_pair {b : Bool}
    (h : lastAt [⟨start, b⟩, ⟨stop, b⟩] time = some e) : e.enabled = b := by
  have hmem := (lastAt_mem h).1
  rw [List.mem_pair] at hmem
  rcases hmem with rfl | rfl
  · rfl
  · rfl

theorem mem_unsorted :
    e ∈ unsorted reading f start stop ↔ e = ⟨start, f.stateAt reading start⟩ ∨
      (∃ s ∈ f.schedules, e ∈ (window reading f start stop).expand s) ∨
      e = ⟨stop, f.stateAt reading stop⟩ := by
  simp only [unsorted, Window.changes, List.cons_append, List.mem_cons, List.mem_append,
    List.mem_flatMap, List.not_mem_nil, or_false]

theorem lastAt_unsorted_inside (hstart : start < time) (hstop : time < stop) :
    lastAt (unsorted reading f start stop) time =
      lastAt ((window reading f start stop).changes f.schedules) time := by
  have hfirst : lastAt [⟨start, f.stateAt reading start⟩] time = none := by
    simp [lastAt, hstart.ne]
  have hlast : lastAt [⟨stop, f.stateAt reading stop⟩] time = none := by
    simp [lastAt, hstop.ne']
  rw [unsorted, ← List.singleton_append, lastAt_append, lastAt_append, hfirst, hlast,
    Option.none_or, Option.or_none]

end FeatureFlags.Timeline
