import FeatureFlags.Proofs.Feature.Malformed
import FeatureFlags.Proofs.Text.Padding

namespace FeatureFlags

open Time

namespace Time.Zone

variable {text : Option String} {texts : List (Option String)} {zone : Zone}

/-- The zone that a text names: one that is there, is not blank and is known without the blanks
around it. -/
def named? (text : Option String) : Option Zone :=
  text.bind fun name => if Text.isBlankText name then none else find? (Text.trim name)

def firstNamed (texts : List (Option String)) : Zone := (texts.findSome? named?).getD utc

theorem resolve_eq_getD (text : Option String) (fallback : Zone) :
    resolve text fallback = (named? text).getD fallback := by
  cases text with
  | none => rfl
  | some name =>
    simp only [resolve, Option.map_some, parse, named?, Option.bind_some, Text.isEmpty_trim]
    cases Text.isBlankText name with
    | true => rfl
    | false => cases find? (Text.trim name) <;> rfl

theorem firstNamed_cons (text : Option String) (texts : List (Option String)) :
    firstNamed (text :: texts) = resolve text (firstNamed texts) := by
  rw [resolve_eq_getD, firstNamed, List.findSome?_cons]
  cases named? text <;> rfl

theorem firstNamed_nil : firstNamed [] = utc := rfl

theorem named?_name (h : named? text = some zone) : named? (some zone.name) = some zone := by
  obtain ⟨name, rfl, hname⟩ := Option.bind_eq_some_iff.1 h
  split at hname
  · cases hname
  · next hblank =>
    rw [name_of_find? hname, named?, Option.bind_some, Text.trim_trim, ← Text.isEmpty_trim,
      Text.trim_trim, Text.isEmpty_trim, if_neg hblank, hname]

theorem named?_utc : named? (some utc.name) = some utc := find?_utc

theorem named?_firstNamed (texts : List (Option String)) :
    named? (some (firstNamed texts).name) = some (firstNamed texts) := by
  rw [firstNamed]
  cases hfind : texts.findSome? named? with
  | none =>
    rw [Option.getD_none]
    exact named?_utc
  | some zone =>
    rw [Option.getD_some]
    obtain ⟨text, _, htext⟩ := List.exists_of_findSome?_eq_some hfind
    exact named?_name htext

end Time.Zone

variable {texts : List (Option String)} {reading : Reading} {zone : Zone} {s : Schedule}
  {created time start stop : Instant}

def Reading.inZone (zone : Zone) (reading : Reading) : Reading := { reading with zone }

theorem Config.zone_reading (config : Config) (request : Option String) :
    (config.reading request).zone = Zone.firstNamed [request, some config.timezone] := by
  rw [Zone.firstNamed_cons, Zone.firstNamed_cons, Zone.firstNamed_nil, reading, zone]

theorem Config.zone_reading_none (config : Config) :
    (config.reading none).zone = Zone.firstNamed [some config.timezone] := by
  rw [config.zone_reading, Zone.firstNamed_cons, Zone.resolve_eq_getD]
  rfl

theorem Config.reading_withTimezone (config : Config) (timezone : String)
    (request request' : Option String) :
    ({ config with timezone } : Config).reading request' =
      (config.reading request).inZone (({ config with timezone } : Config).reading request').zone :=
  rfl

namespace Schedule

/-- The schedule with the name of a zone for its own: of the first one that its text or one of
`texts` names. -/
def pinned (texts : List (Option String)) (s : Schedule) : Schedule :=
  s.withTimezone (Zone.firstNamed (s.timezone :: texts)).name

theorem zone_pinned (s : Schedule) (texts : List (Option String)) (fallback : Zone) :
    (s.pinned texts).zone fallback = s.zone (Zone.firstNamed texts) := by
  have hzone : (s.pinned texts).zone fallback =
      Zone.resolve (some (Zone.firstNamed (s.timezone :: texts)).name) fallback := rfl
  rw [hzone, Zone.resolve_eq_getD, Zone.named?_firstNamed, Option.getD_some, Zone.firstNamed_cons]
  rfl

theorem recurrence?_pinned (hzone : reading.zone = Zone.firstNamed texts) :
    (s.pinned texts).recurrence? (reading.inZone zone) created = s.recurrence? reading created := by
  rw [recurrence?, recurrence?, zone_pinned, ← hzone]
  rfl

theorem isActive_pinned (hzone : reading.zone = Zone.firstNamed texts) :
    (s.pinned texts).isActive (reading.inZone zone) created time =
      s.isActive reading created time := by
  rw [isActive, isActive, recurrence?_pinned hzone]
  rfl

theorem baseline_pinned (schedules : List Schedule) :
    baseline (schedules.map (pinned texts)) = baseline schedules := by
  rw [baseline, baseline, List.isEmpty_map, List.all_map]
  rfl

end Schedule

namespace Feature

def pinned (texts : List (Option String)) (f : Feature) : Feature :=
  f.withSchedules (f.schedules.map (.pinned texts))

theorem stateAt_pinned (f : Feature) (hzone : reading.zone = Zone.firstNamed texts) :
    (f.pinned texts).stateAt (reading.inZone zone) time = f.stateAt reading time := by
  have hactive : (fun s : Schedule => s.isActive (reading.inZone zone) f.created time) ∘
      Schedule.pinned texts = fun s => s.isActive reading f.created time :=
    funext fun _ => Schedule.isActive_pinned hzone
  have hschedules : (f.pinned texts).schedules = f.schedules.map (.pinned texts) := rfl
  have hcreated : (f.pinned texts).created = f.created := rfl
  rw [stateAt, stateAt, hschedules, hcreated, List.isEmpty_map, Schedule.baseline_pinned,
    ← List.map_reverse, List.find?_map, hactive]
  cases f.schedules.reverse.find? fun s => s.isActive reading f.created time <;> rfl

theorem evaluateAt_pinned (f : Feature) (config : Config) (timezone : String) (context : Context) :
    (f.pinned [some config.timezone]).evaluateAt { config with timezone } context time =
      f.evaluateAt config context time := by
  rw [evaluateAt, evaluateAt, config.reading_withTimezone timezone none,
    f.stateAt_pinned config.zone_reading_none]
  rfl

end Feature

namespace Timeline

variable {w : Window}

namespace Window

def inZone (zone : Zone) (w : Window) : Window := { w with reading := w.reading.inZone zone }

theorem expand_pinned (hzone : w.reading.zone = Zone.firstNamed texts) :
    (w.inZone zone).expand (s.pinned texts) = w.expand s := by
  have hrecurrence : (s.pinned texts).recurrence? (w.inZone zone).reading (w.inZone zone).created =
      s.recurrence? w.reading w.created := Schedule.recurrence?_pinned hzone
  have hrecurring : (w.inZone zone).recurring (s.pinned texts) = w.recurring s := by
    rw [recurring, recurring, hrecurrence]
    rfl
  rw [expand, expand, hrecurring]
  rfl

theorem changes_pinned (hzone : w.reading.zone = Zone.firstNamed texts)
    (schedules : List Schedule) :
    (w.inZone zone).changes (schedules.map (.pinned texts)) = w.changes schedules := by
  rw [changes, changes, List.flatMap_map]
  simp only [expand_pinned hzone]

end Window

theorem ofReading_pinned (f : Feature) (hzone : reading.zone = Zone.firstNamed texts) :
    ofReading (reading.inZone zone) (f.pinned texts) start stop =
      ofReading reading f start stop := by
  have hschedules : (f.pinned texts).schedules = f.schedules.map (.pinned texts) := rfl
  have hwindow : window (reading.inZone zone) (f.pinned texts) start stop =
      (window reading f start stop).inZone zone := by
    rw [window, hschedules, Schedule.baseline_pinned]
    rfl
  have hchanges : (window (reading.inZone zone) (f.pinned texts) start stop).changes
      (f.pinned texts).schedules = (window reading f start stop).changes f.schedules := by
    rw [hwindow, hschedules]
    exact Window.changes_pinned hzone f.schedules
  refine ofReading_congr rfl ?_ ?_
  · rw [hschedules, List.isEmpty_map]
  · rw [unsorted, unsorted, f.stateAt_pinned hzone, f.stateAt_pinned hzone, hchanges]

theorem build_pinned (config : Config) (f : Feature) (timezone : String)
    (request request' : Option String) :
    build { config with timezone } (f.pinned [request, some config.timezone]) start stop request' =
      build config f start stop request := by
  rw [build, build, config.reading_withTimezone timezone request,
    ofReading_pinned f (config.zone_reading request)]

end Timeline

namespace Feature

/-- Schedules may have the zones that they are read in for their own: this changes no timeline and
no evaluation, and takes from requests and settings all influence on them. -/
theorem pinned_unchanged (config : Config) (f : Feature) (timezone : String) :
    (∀ (request request' : Option String) (start stop : Instant),
      Timeline.build { config with timezone } (f.pinned [request, some config.timezone]) start stop
          request' =
        Timeline.build config f start stop request) ∧
      ∀ (s s' : Snapshot) (project : Uuid) (key : String) (context : Context) (time : Instant),
        s.get? project key = some f →
        s'.get? project key = some (f.pinned [some config.timezone]) →
        s'.evaluateAt { config with timezone } project key context time =
          s.evaluateAt config project key context time := by
  constructor
  · intro request request' start stop
    exact Timeline.build_pinned config f timezone request request'
  · intro s s' project key context time hf hf'
    rw [Snapshot.evaluateAt_of_get? hf, Snapshot.evaluateAt_of_get? hf', f.evaluateAt_pinned config]

def offices : Feature :=
  Timeline.officeHours.withSchedules
    [.withTimezone .weekdayMornings " ", .withTimezone Timeline.afternoon " Asia/Tokyo"]

/-- The first schedule is read in the zone of the settings, as the request names none. -/
theorem pinned_unchanged_offices :
    let config : Config := { Config.default with timezone := "Europe/Berlin " }
    (offices.pinned [some "\t", some config.timezone]).schedules.map Schedule.timezone =
        [some "Europe/Berlin", some "Asia/Tokyo"] ∧
      Timeline.build .default (offices.pinned [some "\t", some config.timezone])
          (.ofSeconds 1704153600) (.ofSeconds 1704240000) (some "America/New_York") =
        Timeline.build config offices (.ofSeconds 1704153600) (.ofSeconds 1704240000)
          (some "\t") ∧
      (Snapshot.ofFeatures [offices]).get? ⟨2⟩ "office-hours" = some offices ∧
      (Snapshot.ofFeatures [offices.pinned [some config.timezone]]).get? ⟨2⟩ "office-hours" =
        some (offices.pinned [some config.timezone]) ∧
      (Snapshot.ofFeatures [offices.pinned [some config.timezone]]).evaluateAt .default ⟨2⟩
          "office-hours" .empty (.ofSeconds 1704190000) =
        (Snapshot.ofFeatures [offices]).evaluateAt config ⟨2⟩ "office-hours" .empty
          (.ofSeconds 1704190000) := by
  intro config
  have hnames : (offices.pinned [some "\t", some config.timezone]).schedules.map
      Schedule.timezone = [some "Europe/Berlin", some "Asia/Tokyo"] := by decide +kernel
  have hf : (Snapshot.ofFeatures [offices]).get? ⟨2⟩ "office-hours" = some offices := rfl
  have hf' : (Snapshot.ofFeatures [offices.pinned [some config.timezone]]).get? ⟨2⟩ "office-hours" =
      some (offices.pinned [some config.timezone]) := rfl
  obtain ⟨hbuild, hevaluate⟩ := pinned_unchanged config offices Config.default.timezone
  exact ⟨hnames, hbuild _ _ _ _, hf, hf', hevaluate _ _ _ _ _ _ hf hf'⟩

end Feature

end FeatureFlags
