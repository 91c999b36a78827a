import FeatureFlags.Cron.Firing
import FeatureFlags.Schedule.Basic

namespace FeatureFlags

open Time

structure Reading where
  zone : Zone
  /-- How many firings are looked at in one search. -/
  limit : Nat
  /-- The firings of an expression in a zone after an instant. -/
  firings : Cron.Expression → Zone → Instant → Cron.Enumeration := Cron.Expression.firingsWhile

structure Recurrence where
  firingsAfter : Instant → Cron.Enumeration
  length : Seconds
  start : Instant

namespace Recurrence

/-- The end of the window opened by a firing; `none` if it lies past the last instant. -/
def end? (r : Recurrence) (firing : Instant) : Option Instant := firing.add? r.length.nanos

/-- The last firing until an instant, if its window is still open then. Firings before the start do
not count. -/
def openAt? (r : Recurrence) (time : Instant) (limit : Nat) : Option Instant :=
  let floor := (r.start.add? (-1)).getD r.start
  let horizon := match time.add? (-r.length.nanos) with
    | some earliest => earliest.later floor
    | none => floor
  ((r.firingsAfter horizon).latest? time limit).filter fun firing => (r.end? firing).all (time < ·)

end Recurrence

namespace Schedule

def recurrence? (s : Schedule) (reading : Reading) (created : Instant) : Option Recurrence := do
  return ⟨reading.firings (← s.expression?) (s.zone reading.zone), ← s.length?,
    s.effectiveStart created⟩

/-- Whether the schedule is active at an instant. One that recurs but is malformed never is. -/
def isActive (s : Schedule) (reading : Reading) (created time : Instant) : Bool :=
  if s.isRecurring then
    (s.recurrence? reading created).any fun r =>
      r.start ≤ time && s.end?.all (time < ·) && (r.openAt? time reading.limit).isSome
  else s.windowContains time

end Schedule

end FeatureFlags
