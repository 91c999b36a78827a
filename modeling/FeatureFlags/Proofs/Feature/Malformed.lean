import FeatureFlags.Proofs.Snapshot.Index
import FeatureFlags.Proofs.Timeline.Ends
import FeatureFlags.Proofs.Timeline.History

namespace FeatureFlags

open Time

namespace Schedule

variable {m : Schedule} {reading : Reading} {created time : Instant}

/-- What keeps a schedule that recurs from ever being active. -/
inductive Malformed (m : Schedule) : Prop where
  | cron {text : String} {error : Cron.Error} (hcron : m.cron = some text)
      (hparse : Cron.Expression.parse text = .error error)
  /-- The windows have no length, or one that is not positive or out of range. -/
  | length {text : String} (hcron : m.cron = some text)
      (hlength : ∀ n ∈ m.seconds, n.toInt ≤ 0 ∨ (maxLength : Int) < n.toInt)

theorem length?_eq_none_iff :
    m.length? = none ↔ ∀ n ∈ m.seconds, n.toInt ≤ 0 ∨ (maxLength : Int) < n.toInt := by
  rw [length?]
  cases m.seconds with
  | none => simp
  | some n => simp [or_iff_not_imp_left]

theorem malformed_iff :
    m.Malformed ↔ m.isRecurring = true ∧ m.recurrence? reading created = none := by
  constructor
  · intro h
    cases h with
    | @cron text error hcron hparse =>
      refine ⟨by rw [isRecurring, hcron]; rfl, Option.eq_none_iff_forall_ne_some.2 fun r hr => ?_⟩
      obtain ⟨e, _, he, _⟩ := recurrence?_eq_some_iff.1 hr
      obtain ⟨text', hcron', hparse'⟩ := expression?_eq_some_iff.1 he
      rw [hcron, Option.some.injEq] at hcron'
      subst hcron'
      cases hparse.symm.trans hparse'
    | @length text hcron hlength =>
      refine ⟨by rw [isRecurring, hcron]; rfl, Option.eq_none_iff_forall_ne_some.2 fun r hr => ?_⟩
      obtain ⟨_, _, _, hn, _⟩ := recurrence?_eq_some_iff.1 hr
      cases (length?_eq_none_iff.2 hlength).symm.trans hn
  · rintro ⟨hrecurring, hnone⟩
    obtain ⟨text, hcron⟩ := Option.isSome_iff_exists.1 hrecurring
    cases hparse : Cron.Expression.parse text with
    | error error => exact .cron hcron hparse
    | ok e =>
      refine .length hcron (length?_eq_none_iff.1 (Option.eq_none_iff_forall_ne_some.2 ?_))
      intro n hn
      have he := expression?_eq_some_iff.2 ⟨text, hcron, hparse⟩
      cases hnone.symm.trans (recurrence?_eq_some_iff.2 ⟨e, n, he, hn, rfl⟩)

theorem Malformed.isActive_eq_false (hm : m.Malformed) :
    m.isActive reading created time = false := by
  obtain ⟨hrecurring, hnone⟩ := malformed_iff.1 hm
  rw [isActive, if_pos hrecurring, hnone]
  rfl

end Schedule

variable {f : Feature} {m : Schedule} {before after : List Schedule} {reading : Reading}
  {config : Config} {context : Context} {start stop time : Instant} {timezone : Option String}
  {e : Timeline.WindowError}

def Feature.withSchedules (f : Feature) (schedules : List Schedule) : Feature :=
  { f with schedules }

theorem Timeline.build_eq_error_iff :
    build config f start stop timezone = .error e ↔ stop < start ∧ e = ⟨start, stop⟩ := by
  constructor
  · intro h
    by_cases hlt : stop < start
    · rw [build_of_lt hlt] at h
      exact ⟨hlt, (Except.error.inj h).symm⟩
    · obtain ⟨_, _, hbuild, _⟩ := build_eq_inner config f timezone (not_lt.1 hlt)
      cases hbuild.symm.trans h
  · rintro ⟨hlt, rfl⟩
    exact build_of_lt hlt

section Insert

variable (hschedules : f.schedules = before ++ after) (hne : f.schedules ≠ [])
  (hbaseline : Schedule.baseline (before ++ m :: after) = Schedule.baseline f.schedules)
include hschedules hne hbaseline

omit hschedules hbaseline in
theorem isEmpty_insert : (before ++ m :: after).isEmpty = f.schedules.isEmpty := by
  rw [List.isEmpty_eq_false_iff.2 hne, List.isEmpty_eq_false_iff]
  exact List.append_ne_nil_of_right_ne_nil _ (List.cons_ne_nil m after)

/-- A schedule that is not active does not decide, wherever it stands. -/
theorem Feature.stateAt_insert (hidle : m.isActive reading f.created time = false) :
    (f.withSchedules (before ++ m :: after)).stateAt reading time = f.stateAt reading time := by
  have hfind : (before ++ m :: after).reverse.find? (·.isActive reading f.created time) =
      f.schedules.reverse.find? (·.isActive reading f.created time) := by
    simp [hschedules, List.find?_append, hidle]
  have hschedules' : (f.withSchedules (before ++ m :: after)).schedules = before ++ m :: after :=
    rfl
  have hcreated' : (f.withSchedules (before ++ m :: after)).created = f.created := rfl
  rw [stateAt, stateAt, hschedules', hcreated', isEmpty_insert hne, hbaseline, hfind]
  rfl

theorem Feature.evaluateAt_insert
    (hidle : m.isActive (config.reading none) f.created time = false) :
    (f.withSchedules (before ++ m :: after)).evaluateAt config context time =
      f.evaluateAt config context time := by
  rw [evaluateAt, evaluateAt, stateAt_insert hschedules hne hbaseline hidle]
  rfl

theorem Timeline.unsorted_insert (hm : m.Malformed) :
    unsorted reading (f.withSchedules (before ++ m :: after)) start stop =
      unsorted reading f start stop := by
  have hstate (time : Instant) :
      (f.withSchedules (before ++ m :: after)).stateAt reading time = f.stateAt reading time :=
    Feature.stateAt_insert hschedules hne hbaseline hm.isActive_eq_false
  have hwindow : window reading (f.withSchedules (before ++ m :: after)) start stop =
      window reading f start stop :=
    congrArg (fun b => (⟨start, stop, f.created, b, reading⟩ : Window)) hbaseline
  obtain ⟨hrecurring, hnone⟩ := Schedule.malformed_iff.1 hm
  have hchanges : (window reading f start stop).changes (before ++ m :: after) =
      (window reading f start stop).changes f.schedules := by
    rw [hschedules, Window.changes, Window.changes, List.flatMap_append, List.flatMap_append,
      List.flatMap_cons, Window.expand_of_malformed hrecurring hnone, List.nil_append]
  rw [unsorted, unsorted, hstate, hstate, hwindow]
  exact congrArg (fun changes => _ :: changes ++ [_]) hchanges

theorem Timeline.build_insert (hm : m.Malformed) :
    build config (f.withSchedules (before ++ m :: after)) start stop timezone =
      build config f start stop timezone :=
  ofReading_congr rfl (isEmpty_insert hne) (unsorted_insert hschedules hne hbaseline hm)

end Insert

namespace Timeline

/-- Only a window that ends before it starts has no timeline. A malformed schedule, put anywhere
among other schedules, changes no state, no evaluation and no timeline unless it changes the
baseline. -/
theorem malformed_isolated :
    (∀ (config : Config) (f : Feature) (start stop : Instant) (timezone : Option String)
      (e : WindowError), build config f start stop timezone = .error e ↔
        stop < start ∧ e = ⟨start, stop⟩) ∧
    ∀ (f : Feature) (before after : List Schedule) (m : Schedule),
      f.schedules = before ++ after → f.schedules ≠ [] → m.Malformed →
      Schedule.baseline (before ++ m :: after) = Schedule.baseline f.schedules →
      let f' := f.withSchedules (before ++ m :: after)
      (∀ (reading : Reading) (time : Instant), f'.stateAt reading time = f.stateAt reading time) ∧
      (∀ (features features' : List Feature) (config : Config) (project : Uuid) (key : String)
        (context : Context) (time : Instant),
        (Snapshot.ofFeatures (features ++ f' :: features')).evaluateAt config project key context
            time =
          (Snapshot.ofFeatures (features ++ f :: features')).evaluateAt config project key context
            time) ∧
      ∀ (config : Config) (start stop : Instant) (timezone : Option String),
        build config f' start stop timezone = build config f start stop timezone := by
  refine ⟨fun _ _ _ _ _ _ => build_eq_error_iff, ?_⟩
  intro f before after m hschedules hne hm hbaseline f'
  refine ⟨?_, ?_, fun _ _ _ _ => build_insert hschedules hne hbaseline hm⟩
  · intro reading time
    exact Feature.stateAt_insert hschedules hne hbaseline hm.isActive_eq_false
  · intro features features' config project key context time
    exact Snapshot.evaluateAt_replace rfl
      (Feature.evaluateAt_insert hschedules hne hbaseline hm.isActive_eq_false)

def never : Schedule := .recurring ⟨5⟩ .enable "61 * * * *" 3600000

theorem malformed_never : never.Malformed := by
  obtain ⟨error, herror⟩ : ∃ error, Cron.Expression.parse "61 * * * *" = .error error := by
    cbv
    exact ⟨_, rfl⟩
  exact .cron rfl herror

theorem officeHours_never :
    officeHours.schedules = [.weekdayMornings] ++ [afternoon] ∧ never.Malformed ∧
      Schedule.baseline [.weekdayMornings, never, afternoon] =
        Schedule.baseline officeHours.schedules ∧
      build .default (officeHours.withSchedules [.weekdayMornings, never, afternoon])
          (.ofSeconds 1704153600) (.ofSeconds 1704240000) none =
        build .default officeHours (.ofSeconds 1704153600) (.ofSeconds 1704240000) none := by
  have hbaseline : Schedule.baseline [.weekdayMornings, never, afternoon] =
      Schedule.baseline officeHours.schedules := rfl
  obtain ⟨_, _, hbuild⟩ := malformed_isolated.2 officeHours [.weekdayMornings] [afternoon] never rfl
    (by decide) malformed_never hbaseline
  exact ⟨rfl, malformed_never, hbaseline, hbuild _ _ _ _⟩

end Timeline

end FeatureFlags
