import FeatureFlags.Proofs.Feature.Evaluation
import FeatureFlags.Proofs.Timeline.Bounds
import FeatureFlags.Snapshot

namespace FeatureFlags

open Time

namespace Feature

variable {f : Feature} {config : Config} {context : Context} {time : Instant}

theorem evaluate_enabled : (f.evaluate config context).enabled = f.enabled := by
  cases hon : f.enabled with
  | false => rw [evaluate, hon]; rfl
  | true =>
    cases hkind : f.kind with
    | boolean => rw [evaluate, hon, hkind]; rfl
    | multivariant =>
      rw [evaluate, hon, hkind]
      cases hfind : f.rulesByPriority.findSome? (f.decide? config context) with
      | none => rfl
      | some e =>
        obtain ⟨_, _, _, _, _, rfl⟩ := findSome?_eq_some_iff.1 hfind
        rfl

theorem stateAt_of_disabled {reading : Reading} (hoff : f.enabled = false) :
    f.stateAt reading time = false := by
  rw [stateAt, hoff]
  rfl

theorem evaluateAt_of_stateAt (hstate : f.stateAt (config.reading none) time = true) :
    f.evaluateAt config context time = f.evaluate config context := by
  rw [evaluateAt, hstate, Bool.not_true, Bool.and_false]
  rfl

theorem evaluateAt_enabled :
    (f.evaluateAt config context time).enabled = f.stateAt (config.reading none) time := by
  cases hstate : f.stateAt (config.reading none) time with
  | true =>
    rw [evaluateAt_of_stateAt hstate, evaluate_enabled]
    by_contra hoff
    rw [stateAt_of_disabled (by simpa using hoff)] at hstate
    cases hstate
  | false =>
    rw [evaluateAt, hstate]
    cases hon : f.enabled with
    | true => rfl
    | false => exact evaluate_enabled.trans hon

end Feature

namespace Timeline

variable {config : Config} {f : Feature} {start stop : Instant} {timezone : Option String}
  {reading : Reading} {w : Window} {s : Schedule} {e first last : Event Instant}
  {events : List (Event Instant)}

def place (e : Event Instant) (events : List (Event Instant)) : List (Event Instant) :=
  events.orderedInsert (fun a b => a.time ≤ b.time) e

theorem place_eq (e : Event Instant) (events : List (Event Instant)) :
    place e events = events.takeWhile (·.time < e.time) ++
      e :: events.dropWhile (·.time < e.time) := by
  rw [place, List.orderedInsert_eq_take_drop]
  simp only [not_le]

theorem sort_cons (e : Event Instant) (events : List (Event Instant)) :
    sort (e :: events) = place e (sort events) := by
  obtain ⟨before, after, hcons, hrest, hbefore⟩ :=
    List.mergeSort_cons (Sorting.decide_le_trans Event.time) (Sorting.decide_le_total Event.time) e
      events
  have hsorted := sort_sorted (e :: events)
  rw [sort, hcons] at hsorted
  have hafter := (List.pairwise_cons.1 (List.pairwise_append.1 hsorted).2.1).1
  have hlt : ∀ e' ∈ before, decide (e'.time < e.time) = true := by
    intro e' he'
    simpa using hbefore e' he'
  rw [sort, hcons, sort, hrest, place_eq, List.takeWhile_append_of_pos hlt,
    List.dropWhile_append_of_pos hlt]
  cases after with
  | nil => simp
  | cons e' after =>
    have hnot : ¬ e'.time < e.time := not_lt.2 (hafter e' List.mem_cons_self)
    simp [hnot]

theorem place_append_singleton (hle : e.time ≤ last.time) :
    place e (events ++ [last]) = place e events ++ [last] := by
  induction events with
  | nil => simp [place, hle]
  | cons e' events ih =>
    simp only [place, List.cons_append, List.orderedInsert_cons] at *
    split
    · rfl
    · rw [ih]
      rfl

theorem sort_append_singleton (hle : ∀ e ∈ events, e.time ≤ last.time) :
    sort (events ++ [last]) = sort events ++ [last] := by
  induction events with
  | nil => simp [sort]
  | cons e events ih =>
    rw [List.cons_append, sort_cons, sort_cons,
      ih fun e' he' => hle e' (List.mem_cons_of_mem e he'),
      place_append_singleton (hle e List.mem_cons_self)]

/-- The events for the ends of a sorted timeline: the first of its time and the last of all. -/
theorem sort_between (first last : Event Instant) (hle : ∀ e ∈ events, e.time ≤ last.time)
    (hends : first.time ≤ last.time) :
    ∃ before after, sort (first :: events ++ [last]) = before ++ first :: after ++ [last] ∧
      before ++ after = sort events ∧ ∀ e ∈ before, e.time < first.time := by
  refine ⟨(sort events).takeWhile (·.time < first.time),
    (sort events).dropWhile (·.time < first.time), ?_, List.takeWhile_append_dropWhile, ?_⟩
  · rw [List.cons_append, sort_cons, sort_append_singleton hle, place_append_singleton hends,
      place_eq]
  · intro e he
    exact of_decide_eq_true (List.all_eq_true.1 List.all_takeWhile e he)

theorem Window.expand_of_start_eq_stop (hempty : w.start = w.stop) : w.expand s = [] := by
  cases hs : s.isRecurring with
  | false =>
    rw [List.eq_nil_iff_forall_not_mem]
    intro e he
    obtain ⟨hlt, hlt'⟩ := inside_iff.1 ((mem_expand_oneShot_iff hs).1 he).2.1
    exact lt_asymm hlt (hempty ▸ hlt')
  | true =>
    cases hr : s.recurrence? w.reading w.created with
    | none => exact expand_of_malformed hs hr
    | some r =>
      have hle : w.hi s ≤ w.lo r := hi_le_stop.trans (hempty ▸ start_le_lo)
      rw [expand_eq hr, if_pos hle]

/-- What a timeline tells beside its ends. -/
def inner (reading : Reading) (f : Feature) (start stop : Instant) : List (Event Instant) :=
  if f.enabled then sort ((window reading f start stop).changes f.schedules) else []

theorem inner_of_start_eq_stop (hempty : start = stop) : inner reading f start stop = [] := by
  have hchanges : (window reading f start stop).changes f.schedules = [] :=
    List.flatMap_eq_nil_iff.2 fun _ _ => Window.expand_of_start_eq_stop hempty
  rw [inner, hchanges]
  simp [sort]

/-- A timeline is what it tells with the events for its ends put in: the first of all events at the
start, and the last of all. -/
theorem build_eq_inner (config : Config) (f : Feature) (timezone : Option String)
    (hle : start ≤ stop) :
    ∃ before after, build config f start stop timezone =
        .ok (before ++ ⟨start, f.stateAt (config.reading timezone) start⟩ :: after ++
          [⟨stop, f.stateAt (config.reading timezone) stop⟩]) ∧
      before ++ after = inner (config.reading timezone) f start stop ∧
      ∀ e ∈ before, e.time < start := by
  cases hon : f.enabled with
  | false =>
    refine ⟨[], [], ?_, by simp [inner, hon], by simp⟩
    rw [build_of_disabled hle hon, Feature.stateAt_of_disabled hon, Feature.stateAt_of_disabled hon]
    rfl
  | true =>
    by_cases hs : f.schedules = []
    · refine ⟨[], [], ?_, by simp [inner, hs, Window.changes, sort], by simp⟩
      rw [build_of_nil hle hon hs]
      simp [Feature.stateAt, hon, hs]
    · rw [build_eq hle hon hs, inner, hon, if_pos rfl]
      have hchanges : ∀ e ∈ (window (config.reading timezone) f start stop).changes f.schedules,
          e.time ≤ stop := by
        intro e he
        obtain ⟨s, _, he⟩ := List.mem_flatMap.1 he
        exact (Window.expand_lt_stop rfl he).le
      obtain ⟨before, after, hsort, hinner, hbefore⟩ :=
        sort_between ⟨start, f.stateAt (config.reading timezone) start⟩
          ⟨stop, f.stateAt (config.reading timezone) stop⟩ hchanges hle
      exact ⟨before, after, congrArg Except.ok hsort, hinner, hbefore⟩

end Timeline

namespace Snapshot

variable {s : Snapshot} {config : Config} {project : Uuid} {key : String} {f : Feature}
  {context : Context} {time : Instant}

theorem evaluate_of_get? (hf : s.get? project key = some f) :
    s.evaluate config project key context = f.evaluate config context := by
  rw [evaluate, hf]

theorem evaluateAt_of_get? (hf : s.get? project key = some f) :
    s.evaluateAt config project key context time = f.evaluateAt config context time := by
  rw [evaluateAt, hf]

/-- Whether a feature of a snapshot is on at an instant is the same for all callers; while it is,
its schedules do not matter. The timeline of the feature tells it at both ends of the window, at the
stop last, and nothing else where the ends are one. -/
theorem build_ends_evaluateAt (config : Config) (hf : s.get? project key = some f) :
    ∃ on : Instant → Bool,
      (∀ context time, (s.evaluateAt config project key context time).enabled = on time) ∧
      (∀ context time, on time = true →
        s.evaluateAt config project key context time = s.evaluate config project key context) ∧
      ∀ start stop, start ≤ stop → ∃ events, Timeline.build config f start stop none = .ok events ∧
        ⟨start, on start⟩ ∈ events ∧ events.getLast? = some ⟨stop, on stop⟩ ∧
        (start = stop → events = [⟨start, on start⟩, ⟨stop, on stop⟩]) := by
  refine ⟨f.stateAt (config.reading none), ?_, ?_, ?_⟩
  · intro context time
    rw [evaluateAt_of_get? hf, Feature.evaluateAt_enabled]
  · intro context time hon
    rw [evaluateAt_of_get? hf, evaluate_of_get? hf, Feature.evaluateAt_of_stateAt hon]
  · intro start stop hle
    obtain ⟨before, after, hbuild, hinner, _⟩ :=
      Timeline.build_eq_inner config f none hle
    refine ⟨_, hbuild, by simp, List.getLast?_concat, ?_⟩
    intro hempty
    rw [Timeline.inner_of_start_eq_stop hempty, List.append_eq_nil_iff] at hinner
    rw [hinner.1, hinner.2]
    rfl

theorem build_halfHours_ends :
    let s := ofFeatures [Timeline.halfHours]
    s.get? ⟨2⟩ "half-hours" = some Timeline.halfHours ∧
      ∃ events, Timeline.build .default Timeline.halfHours (.ofSeconds 1729991400)
          (.ofSeconds 1729998000) none = .ok events ∧
        events.getLast? = some ⟨.ofSeconds 1729998000,
          (s.evaluateAt .default ⟨2⟩ "half-hours" .empty (.ofSeconds 1729998000)).enabled⟩ := by
  have hf : (ofFeatures [Timeline.halfHours]).get? ⟨2⟩ "half-hours" =
      some Timeline.halfHours := rfl
  obtain ⟨on, henabled, _, hbuild⟩ := build_ends_evaluateAt .default hf
  obtain ⟨events, he, _, hlast, _⟩ := hbuild (.ofSeconds 1729991400) (.ofSeconds 1729998000)
    (by decide)
  exact ⟨hf, events, he, by rw [hlast, henabled]⟩

end Snapshot

end FeatureFlags
