import FeatureFlags.Cron.Times
import FeatureFlags.Cron.Weekday

namespace FeatureFlags.Cron

structure Expression where
  /-- The text it was read from, without the blanks around it. -/
  text : String
  times : Times
deriving DecidableEq

namespace Expression

def normalize (trimmed : List Char) : Except Error (List Char) :=
  match Text.words trimmed with
  | [minute, hour, day, month, weekday] => do
    return Text.joinWith ' ' [['0'], minute, hour, day, month, ← Weekday.renumberField weekday]
  | fields => .error (.fieldCount (String.ofList trimmed) fields.length)

def parse (text : String) : Except Error Expression := do
  let trimmed := Text.trimChars text.toList
  let times ← if trimmed.head? = some '@' then .ok (Times.shorthand? trimmed)
    else Times.parse? <$> normalize trimmed
  match times with
  | some times => return ⟨String.ofList trimmed, times⟩
  | none => .error (.malformed (String.ofList trimmed))

def fires (e : Expression) (t : Time.Instant) : Bool := e.times.contains t.clock

end Expression

def presets : List (String × String) := [
  ("DAILY", "0 0 * * *"),
  ("EVERY_15_MINUTES", "*/15 * * * *"),
  ("EVERY_5_MINUTES", "*/5 * * * *"),
  ("EVERY_HOUR", "0 * * * *"),
  ("EVERY_MINUTE", "* * * * *"),
  ("MONTHLY", "0 0 1 * *"),
  ("WEEKDAYS_9AM", "0 9 * * 1-5"),
  ("WEEKENDS_10AM", "0 10 * * 6,0"),
  ("WEEKLY", "0 0 * * 0")]

end FeatureFlags.Cron
