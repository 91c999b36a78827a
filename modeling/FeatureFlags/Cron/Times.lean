import FeatureFlags.Cron.Grammar
import FeatureFlags.Time.Zone

namespace FeatureFlags.Cron

open Time

structure Times where
  seconds : Field
  minutes : Field
  hours : Field
  days : Field
  months : Field
  weekdays : Field
  years : Field
deriving DecidableEq

namespace Times

def parse? (s : List Char) : Option Times := do
  let (seconds, s) ← Grammar.fieldAt .second s
  let (minutes, s) ← Grammar.fieldAt .minute s
  let (hours, s) ← Grammar.fieldAt .hour s
  let (days, s) ← Grammar.fieldAt .day s
  let (months, s) ← Grammar.fieldAt .month s
  let (weekdays, s) ← Grammar.fieldAt .weekday s
  match s with
  | [] => some ⟨seconds, minutes, hours, days, months, weekdays, .every .year⟩
  | s => do
    let (years, s) ← Grammar.fieldAt .year s
    if s.isEmpty then some ⟨seconds, minutes, hours, days, months, weekdays, years⟩ else none

def shorthand? (word : List Char) : Option Times :=
  let zero := Field.just 0
  let everyDay := Field.every .day
  let everyMonth := Field.every .month
  let everyWeekday := Field.every .weekday
  let everyYear := Field.every .year
  match String.ofList word with
  | "@yearly" => some ⟨zero, zero, zero, .just 1, .just 1, everyWeekday, everyYear⟩
  | "@monthly" => some ⟨zero, zero, zero, .just 1, everyMonth, everyWeekday, everyYear⟩
  | "@weekly" => some ⟨zero, zero, zero, everyDay, everyMonth, .just 1, everyYear⟩
  | "@daily" => some ⟨zero, zero, zero, everyDay, everyMonth, everyWeekday, everyYear⟩
  | "@hourly" => some ⟨zero, zero, .every .hour, everyDay, everyMonth, everyWeekday, everyYear⟩
  | _ => none

/-- Whether the fields hold all that a clock shows. -/
def contains (t : Times) (c : ClockTime) : Bool :=
  0 ≤ c.year && t.years.contains c.year.toNat && t.months.contains c.month &&
    t.days.contains c.day && t.weekdays.contains c.weekday && t.hours.contains c.hour &&
    t.minutes.contains c.minute && t.seconds.contains c.second

/-- A lower bound that holds only while all greater units are as they were at the start. -/
def lowest (bound : Bool) (value least : Nat) : Nat := if bound then value else least

/-- The result at the first time from `c` on that has one. -/
def findSome? {α : Type} (t : Times) (result : ClockTime → Option α) (c : ClockTime) : Option α :=
  if c.year < 0 then none
  else t.years.findSome? c.year.toNat CalendarUnit.year.greatest fun year =>
    let bound := decide ((year : Int) = c.year)
    t.months.findSome? (lowest bound c.month 1) 12 fun month =>
    let bound := bound && month == c.month
    t.days.findSome? (lowest bound c.day 1) (daysInMonth year month) fun day =>
    let bound := bound && day == c.day
    if !t.weekdays.contains (Date.weekday (Date.dayNumber ⟨year, month, day⟩)) then none
    else t.hours.findSome? (lowest bound c.hour 0) 23 fun hour =>
    let bound := bound && hour == c.hour
    t.minutes.findSome? (lowest bound c.minute 0) 59 fun minute =>
    let bound := bound && minute == c.minute
    t.seconds.findSome? (lowest bound c.second 0) 59 fun second =>
    result ⟨year, month, day, hour, minute, second⟩

end Times

end FeatureFlags.Cron
