import FeatureFlags.Text.Blank
import FeatureFlags.Text.Digits
import FeatureFlags.Time.Instant

namespace FeatureFlags.Time

structure Timestamp where
  /-- The instant, or for a leap second the instant one second before. -/
  shown : Instant
  leap : Bool
  representable : shown.Representable
deriving DecidableEq

namespace Timestamp

/-- A leap second comes after all of the second that it follows and before the next. No instant lies
within it, so all of it falls on the start of the next. -/
def instant (t : Timestamp) : Instant :=
  if t.leap then .ofSeconds (t.shown.seconds + 1) else t.shown

def ofInstant? (t : Instant) : Option Timestamp :=
  if h : t.Representable then some ⟨t, false, h⟩ else none

def padded (width n : Nat) : List Char :=
  let ds := (toString n).toList
  List.replicate (width - ds.length) '0' ++ ds

/-- Four digits, or a sign and at least four digits outside 0 to 9999. -/
def writeYear (year : Int) : List Char :=
  if 0 ≤ year ∧ year ≤ 9999 then padded 4 year.natAbs
  else (if year < 0 then '-' else '+') :: padded 4 year.natAbs

/-- Nothing, or a point and the fewest of 3, 6 or 9 digits. -/
def writeFraction (nanos : Nat) : List Char :=
  if nanos = 0 then []
  else if nanos % 1000000 = 0 then '.' :: padded 3 (nanos / 1000000)
  else if nanos % 1000 = 0 then '.' :: padded 6 (nanos / 1000)
  else '.' :: padded 9 nanos

def writeDate (c : ClockTime) : List Char :=
  writeYear c.year ++ '-' :: padded 2 c.month ++ '-' :: padded 2 c.day

def writeTime (c : ClockTime) (nanos : Nat) : List Char :=
  padded 2 c.hour ++ ':' :: padded 2 c.minute ++ ':' :: padded 2 c.second ++ writeFraction nanos

def writeChars (t : Timestamp) : List Char :=
  let c := t.shown.clock
  let c := if t.leap then { c with second := c.second + 1 } else c
  writeDate c ++ 'T' :: writeTime c t.shown.fraction ++ ['Z']

def write (t : Timestamp) : String := String.ofList t.writeChars

def skipBlanks (s : List Char) : List Char := s.dropWhile Text.isBlank

def numberAt (width : Nat) (s : List Char) : Option (Nat × List Char) :=
  let s := skipBlanks s
  let ds := (s.take width).takeWhile Char.isDigit
  if ds.isEmpty then none else some (Text.decimalValue ds, s.drop ds.length)

def markAt (mark : Char) (s : List Char) : Option (List Char) :=
  match skipBlanks s with
  | c :: rest => if c = mark then some rest else none
  | [] => none

def yearAt (s : List Char) : Option (Int × List Char) :=
  match skipBlanks s with
  | '-' :: rest => do
    if rest.head?.any Char.isDigit then
      let (n, rest) ← numberAt rest.length rest
      return (-n, rest)
    else none
  | '+' :: rest => do
    if rest.head?.any Char.isDigit then
      let (n, rest) ← numberAt rest.length rest
      return (n, rest)
    else none
  | s => do
    let (n, rest) ← numberAt 4 s
    return (n, rest)

/-- Nanoseconds after a point: nine digits count, more are passed over. -/
def fractionAt : List Char → Option (Nat × List Char)
  | '.' :: s =>
    let ds := (s.take 9).takeWhile Char.isDigit
    if ds.isEmpty then none
    else some (Text.decimalValue ds * .pow 10 (9 - ds.length), s.dropWhile Char.isDigit)
  | s => some (0, s)

def twoDigitsAt (bound : Nat) : List Char → Option (Nat × List Char)
  | a :: b :: rest =>
    if a.isDigit ∧ b.isDigit ∧ a.toNat - 48 < bound then
      some ((a.toNat - 48) * 10 + (b.toNat - 48), rest)
    else none
  | _ => none

def hoursAndMinutesAt (s : List Char) : Option (Int × List Char) := do
  let (hours, s) ← twoDigitsAt 10 s
  let (minutes, s) ← twoDigitsAt 6 (s.dropWhile fun c => c = ':' || Text.isBlank c)
  return (hours * 3600 + minutes * 60, s)

def offsetAt (s : List Char) : Option (Int × List Char) :=
  if (s.take 3).map Char.toUpper = ['U', 'T', 'C'] then some (0, s.drop 3)
  else match s with
    | 'Z' :: rest => some (0, rest)
    | 'z' :: rest => some (0, rest)
    | '+' :: rest => hoursAndMinutesAt rest
    | '-' :: rest => (hoursAndMinutesAt rest).map fun (n, s) => (-n, s)
    | '−' :: rest => (hoursAndMinutesAt rest).map fun (n, s) => (-n, s)
    | _ => none

/-- The timestamp of a clock that runs `offset` seconds ahead of universal time. Second 60 is a leap
second, whatever the minute. -/
def ofClock? (c : ClockTime) (nanos : Nat) (offset : Int) : Option Timestamp :=
  let leap : Bool := c.second = 60
  let c := if leap then { c with second := 59 } else c
  let shown : Instant := ⟨(c.seconds - offset) * 1000000000 + nanos⟩
  let onClock : Instant := ⟨c.seconds * 1000000000 + nanos⟩
  if c.date.Valid ∧ c.hour < 24 ∧ c.minute < 60 ∧ c.second < 60 ∧ offset.natAbs < 86400 ∧
      onClock.Representable then
    if h : shown.Representable then some ⟨shown, leap, h⟩ else none
  else none

def parseChars? (s : List Char) : Option Timestamp := do
  let (year, s) ← yearAt s
  let (month, s) ← numberAt 2 (← markAt '-' s)
  let (day, s) ← numberAt 2 (← markAt '-' s)
  let s ← match s with
    | 'T' :: s => some s
    | 't' :: s => some s
    | ' ' :: s => some s
    | _ => none
  let (hour, s) ← numberAt 2 s
  let (minute, s) ← numberAt 2 (← markAt ':' s)
  let (second, s) ← numberAt 2 (← markAt ':' s)
  let (nanos, s) ← fractionAt s
  let (offset, s) ← offsetAt (skipBlanks s)
  if (skipBlanks s).isEmpty then ofClock? ⟨year, month, day, hour, minute, second⟩ nanos offset
  else none

def parse? (text : String) : Option Timestamp := parseChars? text.toList

end Timestamp

def Instant.describe (t : Instant) : String :=
  String.ofList
    (Timestamp.writeDate t.clock ++ ' ' :: Timestamp.writeTime t.clock t.fraction) ++ " UTC"

end FeatureFlags.Time
