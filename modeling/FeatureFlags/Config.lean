import FeatureFlags.Schedule.Recurrence
import FeatureFlags.Text.Digits

namespace FeatureFlags

open Time

structure Config where
  /-- The attribute that puts callers into buckets where a feature names none. -/
  rolloutKey : String
  timezone : String
  maxOccurrences : UInt64
deriving DecidableEq

inductive ConfigError where
  | blankRolloutKey
  | zeroOccurrences
  | timezone (e : ZoneError)
deriving DecidableEq

def ConfigError.message : ConfigError → String
  | blankRolloutKey => "Engine configuration error: default rollout key must not be empty"
  | zeroOccurrences => "Engine configuration error: max cron occurrences must be positive"
  | timezone e => e.message

namespace Config

def default : Config := ⟨"user_id", "UTC", 100000⟩

/-- A number of 64 bits in digits, perhaps behind a plus sign. -/
def natural? (s : List Char) : Option UInt64 :=
  let ds := match s with
    | '+' :: ds => ds
    | ds => ds
  if ds.isEmpty || !ds.all Char.isDigit || UInt64.size ≤ Text.decimalValue ds then none
  else some (UInt64.ofNat (Text.decimalValue ds))

/-- Settings written as texts; one that is missing or cannot be used stays at its default. -/
def ofTexts (rolloutKey timezone maxOccurrences : Option String) : Config where
  rolloutKey := (rolloutKey.filter (!Text.isBlankText ·)).getD default.rolloutKey
  timezone := (timezone.filter fun name => (Zone.parse name).isOk).getD default.timezone
  maxOccurrences :=
    ((maxOccurrences.bind fun text => natural? (Text.trimChars text.toList)).filter (0 < ·)).getD
      default.maxOccurrences

def validate (c : Config) : Except ConfigError Unit :=
  if Text.isBlankText c.rolloutKey then .error .blankRolloutKey
  else if c.maxOccurrences = 0 then .error .zeroOccurrences
  else match Zone.parse c.timezone with
    | .ok _ => .ok ()
    | .error e => .error (.timezone e)

def zone (c : Config) : Zone := .resolve (some c.timezone) .utc

/-- How schedules are read where a request names a zone or none. -/
def reading (c : Config) (timezone : Option String) : Reading where
  zone := .resolve timezone c.zone
  limit := c.maxOccurrences.toNat

end Config

end FeatureFlags
