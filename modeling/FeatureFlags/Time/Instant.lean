import FeatureFlags.Time.Calendar

namespace FeatureFlags.Time

structure Instant where
  nanos : Int
deriving DecidableEq

structure ClockTime where
  year : Int
  month : Nat
  day : Nat
  hour : Nat
  minute : Nat
  second : Nat
deriving DecidableEq

namespace ClockTime

def date (c : ClockTime) : Date := ⟨c.year, c.month, c.day⟩

def seconds (c : ClockTime) : Int :=
  c.date.dayNumber * 86400 + c.hour * 3600 + c.minute * 60 + c.second

def ofSeconds (n : Int) : ClockTime :=
  let d := Date.ofDayNumber (n / 86400)
  let s := (n % 86400).toNat
  ⟨d.year, d.month, d.day, s / 3600, s / 60 % 60, s % 60⟩

def weekday (c : ClockTime) : Nat := Date.weekday c.date.dayNumber

end ClockTime

namespace Instant

instance : LT Instant := ⟨fun a b => a.nanos < b.nanos⟩
instance : LE Instant := ⟨fun a b => a.nanos ≤ b.nanos⟩
instance (a b : Instant) : Decidable (a < b) := inferInstanceAs (Decidable (a.nanos < b.nanos))
instance (a b : Instant) : Decidable (a ≤ b) := inferInstanceAs (Decidable (a.nanos ≤ b.nanos))

theorem lt_iff {a b : Instant} : a < b ↔ a.nanos < b.nanos := Iff.rfl
theorem le_iff {a b : Instant} : a ≤ b ↔ a.nanos ≤ b.nanos := Iff.rfl

def ofSeconds (n : Int) : Instant := ⟨n * 1000000000⟩

/-- Whole seconds, the fraction dropped. -/
def seconds (t : Instant) : Int := t.nanos / 1000000000

def fraction (t : Instant) : Nat := (t.nanos % 1000000000).toNat

def clock (t : Instant) : ClockTime := ClockTime.ofSeconds t.seconds

def ofYear (year : Int) : Instant := ofSeconds (ClockTime.seconds ⟨year, 1, 1, 0, 0, 0⟩)

def first : Instant := ofYear (-262143)

def last : Instant := ⟨(ofYear 262143).nanos - 1⟩

def Representable (t : Instant) : Prop := first ≤ t ∧ t ≤ last

instance (t : Instant) : Decidable t.Representable := by unfold Representable; infer_instance

def checked (t : Instant) : Option Instant := if t.Representable then some t else none

def add? (t : Instant) (nanos : Int) : Option Instant := checked ⟨t.nanos + nanos⟩

def later (a b : Instant) : Instant := if a ≤ b then b else a

def earlier (a b : Instant) : Instant := if a ≤ b then a else b

end Instant

abbrev Seconds := Nat

def Seconds.nanos (n : Seconds) : Int := n * 1000000000

end FeatureFlags.Time
