import FeatureFlags.Config
import FeatureFlags.Feature.Basic

namespace FeatureFlags

open Time

/-- From a time on, the state. -/
structure Event (τ : Type) where
  time : τ
  enabled : Bool
deriving DecidableEq

namespace Timeline

structure WindowError where
  start : Instant
  stop : Instant
deriving DecidableEq

def WindowError.message (e : WindowError) : String :=
  "Invalid timeline window: " ++ e.stop.describe ++ " is before " ++ e.start.describe

/-- What the expansions of all schedules share. -/
structure Window where
  start : Instant
  stop : Instant
  created : Instant
  baseline : Bool
  reading : Reading

namespace Window

/-- Strictly between the ends. -/
def inside (w : Window) (time : Instant) : Bool := w.start < time && time < w.stop

def oneShot (w : Window) (s : Schedule) : List (Event Instant) :=
  if s.start?.any fun start => s.end?.any (· ≤ start) then []
  else
    ((s.start?.filter w.inside).map fun t => ⟨t, s.action.enables⟩).toList ++
      ((s.end?.filter w.inside).map fun t => ⟨t, w.baseline⟩).toList

/-- The return to the baseline that ends the window of a firing, if it comes before `hi`. -/
def closing (w : Window) (r : Recurrence) (hi firing : Instant) : List (Event Instant) :=
  (((r.end? firing).filter (· < hi)).map fun t => ⟨t, w.baseline⟩).toList

/-- The end of an occurrence that runs already when the window starts at `lo`. -/
def carriedOver (w : Window) (r : Recurrence) (lo hi : Instant) : List (Event Instant) :=
  if lo = w.start then (r.openAt? lo w.reading.limit).toList.flatMap (w.closing r hi) else []

/-- The occurrences from `lo` on and before `hi`; one at the start of the window has been told. -/
def occurrences (w : Window) (r : Recurrence) (on : Bool) (lo hi : Instant) :
    List (Event Instant) :=
  let after := if w.start < lo then ⟨lo.nanos - 1⟩ else lo
  (r.firingsAfter after (· < hi) w.reading.limit).flatMap fun firing =>
    ⟨firing, on⟩ :: w.closing r hi firing

/-- The return to the baseline where the schedule ends while an occurrence runs. -/
def cutOff (w : Window) (r : Recurrence) (hi : Instant) : List (Event Instant) :=
  let running := (r.openAt? ⟨hi.nanos - 1⟩ w.reading.limit).any fun firing =>
    (r.end? firing).all (hi ≤ ·)
  if hi < w.stop ∧ running then [⟨hi, w.baseline⟩] else []

def recurring (w : Window) (s : Schedule) : List (Event Instant) :=
  match s.recurrence? w.reading w.created with
  | none => []
  | some r =>
    let lo := w.start.later r.start
    let hi := match s.end? with
      | some stop => stop.earlier w.stop
      | none => w.stop
    if hi ≤ lo then []
    else w.carriedOver r lo hi ++ w.occurrences r s.action.enables lo hi ++ w.cutOff r hi

def expand (w : Window) (s : Schedule) : List (Event Instant) :=
  if s.isRecurring then w.recurring s else w.oneShot s

def changes (w : Window) (schedules : List Schedule) : List (Event Instant) :=
  schedules.flatMap w.expand

end Window

def sort (events : List (Event Instant)) : List (Event Instant) :=
  events.mergeSort fun a b => decide (a.time ≤ b.time)

def ofReading (reading : Reading) (f : Feature) (start stop : Instant) :
    Except WindowError (List (Event Instant)) :=
  if stop < start then .error ⟨start, stop⟩
  else if !f.enabled then .ok [⟨start, false⟩, ⟨stop, false⟩]
  else if f.schedules.isEmpty then .ok [⟨start, true⟩, ⟨stop, true⟩]
  else
    let w : Window := ⟨start, stop, f.created, Schedule.baseline f.schedules, reading⟩
    .ok (sort (⟨start, f.stateAt reading start⟩ :: w.changes f.schedules ++
      [⟨stop, f.stateAt reading stop⟩]))

/-- The timeline of a feature; schedules that name no zone are read in that of the request. -/
def build (config : Config) (f : Feature) (start stop : Instant) (timezone : Option String) :
    Except WindowError (List (Event Instant)) :=
  ofReading (config.reading timezone) f start stop

end Timeline

end FeatureFlags
