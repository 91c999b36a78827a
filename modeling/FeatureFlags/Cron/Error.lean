import FeatureFlags.Text.Blank

namespace FeatureFlags.Cron

inductive Error where
  | fieldCount (text : String) (found : Nat)
  | malformed (text : String)
  /-- A weekday past 7, or a range of weekdays that cannot be renumbered. -/
  | weekday (item : String)
deriving DecidableEq

def headline : List Char → List Char
  | ':' :: ' ' :: _ => []
  | c :: rest => c :: headline rest
  | [] => []

def Error.message : Error → String
  | fieldCount text found =>
    "Invalid cron expression: " ++ text ++ ": expected 5 fields, found " ++ toString found
  | malformed text =>
    "Invalid cron expression: " ++ String.ofList (headline (text.toList ++ [':', ' ']))
  | weekday item => "Unsupported day-of-week field: " ++ item

end FeatureFlags.Cron
