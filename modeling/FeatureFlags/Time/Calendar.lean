namespace FeatureFlags.Time

def isLeap (year : Int) : Bool := year % 4 == 0 && (year % 100 != 0 || year % 400 == 0)

def daysInMonth (year : Int) : (month : Nat) → Nat
  | 2 => if isLeap year then 29 else 28
  | 4 | 6 | 9 | 11 => 30
  | _ => 31

/-- Days before 1 January of a year, from 1 January of year 1 on. -/
def daysBeforeYear (year : Int) : Int :=
  365 * (year - 1) + (year - 1) / 4 - (year - 1) / 100 + (year - 1) / 400

def epoch : Int := daysBeforeYear 1970

structure Date where
  year : Int
  month : Nat
  day : Nat
deriving DecidableEq

namespace Date

def Valid (d : Date) : Prop :=
  1 ≤ d.month ∧ d.month ≤ 12 ∧ 1 ≤ d.day ∧ d.day ≤ daysInMonth d.year d.month

instance (d : Date) : Decidable d.Valid := by unfold Valid; infer_instance

def daysBeforeMonth (year : Int) : (month : Nat) → Nat
  | 0 | 1 => 0
  | month + 1 => daysBeforeMonth year month + daysInMonth year month

def dayNumber (d : Date) : Int :=
  daysBeforeYear d.year - epoch + daysBeforeMonth d.year d.month + d.day - 1

/-- The year of a day in the count of `daysBeforeYear`: 400 years have 146097 days, and the estimate
from that is off by one at most. -/
def yearOf (n : Int) : Int :=
  let guess := n * 400 / 146097 + 1
  if n < daysBeforeYear guess then guess - 1
  else if daysBeforeYear (guess + 1) ≤ n then guess + 1
  else guess

theorem daysBeforeYear_yearOf (n : Int) :
    daysBeforeYear (yearOf n) ≤ n ∧ n < daysBeforeYear (yearOf n + 1) := by
  unfold yearOf
  generalize hg : n * 400 / 146097 + 1 = guess
  dsimp only
  split
  · simp only [daysBeforeYear] at *; omega
  · split
    · simp only [daysBeforeYear] at *; omega
    · simp only [daysBeforeYear] at *; omega

def monthAndDay (year : Int) : (fuel : Nat) → (month rest : Nat) → Nat × Nat
  | 0, month, rest => (month, rest + 1)
  | fuel + 1, month, rest =>
    if rest < daysInMonth year month then (month, rest + 1)
    else monthAndDay year fuel (month + 1) (rest - daysInMonth year month)

def ofDayNumber (n : Int) : Date :=
  let year := yearOf (n + epoch)
  let (month, day) := monthAndDay year 11 1 (n + epoch - daysBeforeYear year).toNat
  ⟨year, month, day⟩

/-- The day of the week of a day, from Sunday as 1 to Saturday as 7. -/
def weekday (n : Int) : Nat := ((n + 4) % 7).toNat + 1

end Date

end FeatureFlags.Time
