namespace FeatureFlags.Cron

inductive CalendarUnit where
  | second
  | minute
  | hour
  | day
  | month
  /-- From Sunday as 1 to Saturday as 7. -/
  | weekday
  | year
deriving DecidableEq

namespace CalendarUnit

def least : CalendarUnit → Nat
  | second | minute | hour => 0
  | day | month | weekday => 1
  | year => 1970

def greatest : CalendarUnit → Nat
  | second | minute => 59
  | hour => 23
  | day => 31
  | month => 12
  | weekday => 7
  | year => 2100

/-- The units whose field may be `?`, which means the same as `*`. -/
def mayBeAny : CalendarUnit → Bool
  | day | weekday => true
  | _ => false

def names : CalendarUnit → List (List String)
  | month => [["jan", "january"], ["feb", "february"], ["mar", "march"], ["apr", "april"], ["may"],
      ["jun", "june"], ["jul", "july"], ["aug", "august"], ["sep", "september"], ["oct", "october"],
      ["nov", "november"], ["dec", "december"]]
  | weekday => [["sun", "sunday"], ["mon", "monday"], ["tue", "tues", "tuesday"],
      ["wed", "wednesday"], ["thu", "thurs", "thursday"], ["fri", "friday"], ["sat", "saturday"]]
  | _ => []

def named? (u : CalendarUnit) (name : List Char) : Option Nat :=
  let lower := String.ofList (name.map Char.toLower)
  (u.names.findIdx? (·.contains lower)).map (· + u.least)

def admits (u : CalendarUnit) (n : Nat) : Bool := u.least ≤ n && n ≤ u.greatest

end CalendarUnit

/-- Every `step`th number from `first` to `last`. -/
structure Progression where
  first : Nat
  last : Nat
  step : Nat
deriving DecidableEq

def Progression.contains (p : Progression) (n : Nat) : Bool :=
  p.first ≤ n && n ≤ p.last && (n - p.first) % p.step == 0

structure Field where
  items : List Progression
deriving DecidableEq

namespace Field

def contains (f : Field) (n : Nat) : Bool := f.items.any (·.contains n)

def every (u : CalendarUnit) : Field := ⟨[⟨u.least, u.greatest, 1⟩]⟩

def just (n : Nat) : Field := ⟨[⟨n, n, 1⟩]⟩

def findSome? {α : Type} (f : Field) (least greatest : Nat) (result : Nat → Option α) : Option α :=
  (List.range' least (greatest + 1 - least)).findSome? fun n =>
    if f.contains n then result n else none

end Field

end FeatureFlags.Cron
