import FeatureFlags.Cron.Expression
import FeatureFlags.Time.Timestamp
import FeatureFlags.Time.Zone
import FeatureFlags.Uuid

namespace FeatureFlags

open Time

inductive ScheduleAction where
  | enable
  | disable
deriving DecidableEq

def ScheduleAction.enables : ScheduleAction → Bool
  | enable => true
  | disable => false

structure Schedule where
  id : Uuid
  startsAt : Option Timestamp
  endsAt : Option Timestamp
  cron : Option String
  seconds : Option Int64
  timezone : Option String
  action : ScheduleAction
deriving DecidableEq

namespace Schedule

def oneShot (id : Uuid) (action : ScheduleAction) (startsAt endsAt : Option Timestamp) : Schedule :=
  ⟨id, startsAt, endsAt, none, none, none, action⟩

def recurring (id : Uuid) (action : ScheduleAction) (cron : String) (milliseconds : Int64) :
    Schedule :=
  ⟨id, none, none, some cron, some (milliseconds / 1000), none, action⟩

def between (s : Schedule) (startsAt endsAt : Option Timestamp) : Schedule :=
  { s with startsAt, endsAt }

def withTimezone (s : Schedule) (timezone : String) : Schedule :=
  { s with timezone := some timezone }

def isRecurring (s : Schedule) : Bool := s.cron.isSome

def start? (s : Schedule) : Option Instant := s.startsAt.map Timestamp.instant

def end? (s : Schedule) : Option Instant := s.endsAt.map Timestamp.instant

/-- The longest window, in seconds: its milliseconds have 64 bits with sign. -/
def maxLength : Seconds := 9223372036854775

/-- The length of the windows, if it is positive and not too long. -/
def length? (s : Schedule) : Option Seconds := do
  let seconds := (← s.seconds).toInt
  if 0 < seconds ∧ seconds ≤ maxLength then some seconds.toNat else none

def parseCron (s : Schedule) : Option (Except Cron.Error Cron.Expression) :=
  s.cron.map Cron.Expression.parse

def expression? (s : Schedule) : Option Cron.Expression :=
  match s.parseCron with
  | some (.ok e) => some e
  | _ => none

def zone (s : Schedule) (fallback : Zone) : Zone := .resolve s.timezone fallback

/-- The first instant at which a recurring schedule may fire. -/
def effectiveStart (s : Schedule) (created : Instant) : Instant := s.start?.getD created

def windowContains (s : Schedule) (time : Instant) : Bool :=
  s.start?.all (· ≤ time) && s.end?.all (time < ·)

/-- The state outside every window: off, unless there are schedules and all of them disable. -/
def baseline (schedules : List Schedule) : Bool :=
  !schedules.isEmpty && schedules.all (·.action == .disable)

end Schedule

end FeatureFlags
