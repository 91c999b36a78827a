import FeatureFlags.Cron.Expression

namespace FeatureFlags.Cron

open Time

/-- Where a walk stands: a firing that is due at once, or else what the clocks show from where on to
look. -/
structure Walk where
  due : Option Instant
  clock : ClockTime

namespace Expression

/-- The walk from the second after an instant on. -/
def walkAfter (zone : Zone) (t : Instant) : Walk :=
  ⟨none, zone.clock ⟨t.nanos + 1000000000⟩⟩

/-- The instants, one or two, at which clocks show the next time from `c` on. -/
def nextInstants? (e : Expression) (zone : Zone) (c : ClockTime) :
    Option (Instant × Option Instant) :=
  e.times.findSome? (fun c => match zone.instantsOf c with
    | [] => none
    | t :: later => some (t, later.head?)) c

/-- The next firing and the walk from there. -/
def step? (e : Expression) (zone : Zone) (w : Walk) : Option (Instant × Walk) :=
  match w.due with
  | some t => some (t, walkAfter zone t)
  | none => do
    match ← e.nextInstants? zone w.clock with
    | (t, none) => some (t, walkAfter zone t)
    | (t, some later) => some (t, ⟨some later, w.clock⟩)

/-- The firings of a walk while `keep` holds of them, at most `limit`. -/
def firingsFrom (e : Expression) (zone : Zone) (keep : Instant → Bool) :
    (limit : Nat) → Walk → List Instant
  | 0, _ => []
  | limit + 1, w =>
    match e.step? zone w with
    | some (t, w) => if keep t then t :: firingsFrom e zone keep limit w else []
    | none => []

/-- The firings after an instant while `keep` holds of them, at most `limit`. In the last second of
all no walk begins. -/
def firingsWhile (e : Expression) (zone : Zone) (after : Instant) (keep : Instant → Bool)
    (limit : Nat) : List Instant :=
  if (after.add? 1000000000).isSome then e.firingsFrom zone keep limit (walkAfter zone after)
  else []

def firings (e : Expression) (zone : Zone) (after : Instant) (limit : Nat) : List Instant :=
  e.firingsWhile zone after (fun _ => true) limit

def next? (e : Expression) (zone : Zone) (after : Instant) : Option Instant :=
  (e.firings zone after 1).head?

end Expression

/-- Firings after a given instant, while a test holds of them and at most a number of them. -/
abbrev Enumeration := (keep : Instant → Bool) → (limit : Nat) → List Instant

namespace Enumeration

def cut (bound : Nat) (firings : Enumeration) : Enumeration := fun keep limit =>
  ((firings (fun _ => true) bound).takeWhile keep).take limit

/-- The last firing until `at`; `none` where there is none or where more than `limit` of them come.
-/
def latest? (firings : Enumeration) (time : Instant) (limit : Nat) : Option Instant :=
  let past := firings (· ≤ time) (limit + 1)
  if past.length ≤ limit then past.getLast? else none

end Enumeration

def Expression.latest? (e : Expression) (zone : Zone) (horizon time : Instant) (limit : Nat) :
    Option Instant :=
  Enumeration.latest? (e.firingsWhile zone horizon) time limit

end FeatureFlags.Cron
