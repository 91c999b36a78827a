import FeatureFlags.Codec.Feature
import FeatureFlags.Feature.Evaluation
import FeatureFlags.Feature.Timeline

namespace FeatureFlags

open Json (Document)

namespace Config

def toJson (c : Config) : Json :=
  .ofMembers [("default_rollout_key", .string c.rolloutKey),
    ("default_timezone", .string c.timezone),
    ("max_cron_occurrences", .int c.maxOccurrences.toNat)]

def ofDocument? (d : Document) : Option Config := do
  let r ← d.record? ["default_rollout_key", "default_timezone", "max_cron_occurrences"]
  return {
    rolloutKey := ← r.withDefault "default_rollout_key" default.rolloutKey Document.string?
    timezone := ← r.withDefault "default_timezone" default.timezone Document.string?
    maxOccurrences := ←
      r.withDefault "max_cron_occurrences" default.maxOccurrences Document.uint64? }

end Config

namespace Reason

def ofName? : String → Option Reason
  | "not_found" => some notFound
  | "disabled" => some disabled
  | "scheduled_off" => some scheduledOff
  | "boolean_default" => some booleanDefault
  | "rollout" => some rollout
  | "fallthrough" => some fallthrough
  | _ => none

def toJson : Reason → Json
  | notFound => tagged "not_found" []
  | disabled => tagged "disabled" []
  | scheduledOff => tagged "scheduled_off" []
  | booleanDefault => tagged "boolean_default" []
  | ruleMatch rule action =>
    tagged "rule_match" [("rule_id", rule.toJson), ("action", action.toJson)]
  | rollout => tagged "rollout" []
  | fallthrough => tagged "fallthrough" []
where
  tagged (kind : String) (members : List (String × Json)) : Json :=
    .ofMembers (("kind", .string kind) :: members)

def action? : Document → Option RuleAction
  | .object [(name, .object [])] => RuleAction.ofName? name
  | d => RuleAction.ofDocument? d

/-- What follows the kind of a reason. Those with nothing but a name pass over members, but not over
items of an array. -/
def ofParts? (kind : String) (rest : Document) : Option Reason :=
  if kind = "rule_match" then do
    let r ← rest.record? ["rule_id", "action"]
    return ruleMatch (← r.required "rule_id" Document.uuid?) (← r.required "action" action?)
  else match rest with
    | .array (_ :: _) => none
    | _ => ofName? kind

/-- An object with a member for the kind, or an array that starts with it; all of it must have a
meaning. -/
def ofDocument? (d : Document) : Option Reason := do
  let _ ← d.toJson?
  match d with
  | .object members =>
    match members.filter (·.1 == "kind") with
    | [(_, .string kind)] => ofParts? kind (.object (members.filter (·.1 != "kind")))
    | _ => none
  | .array (.string kind :: rest) => ofParts? kind (.array rest)
  | _ => none

end Reason

namespace Evaluation

def toJson (e : Evaluation) : Json :=
  .ofMembers [("value", .string e.value), ("enabled", .bool e.enabled), ("found", .bool e.found),
    ("reason", e.reason.toJson)]

def ofDocument? (d : Document) : Option Evaluation := do
  let r ← d.record? ["value", "enabled", "found", "reason"]
  return {
    value := ← r.required "value" Document.string?
    enabled := ← r.required "enabled" Document.bool?
    found := ← r.required "found" Document.bool?
    reason := ← r.required "reason" Reason.ofDocument? }

end Evaluation

namespace Event

def toJson (e : Event Time.Timestamp) : Json :=
  .ofMembers [("time", e.time.toJson), ("enabled", .bool e.enabled)]

def ofDocument? (d : Document) : Option (Event Time.Timestamp) := do
  let r ← d.record? ["time", "enabled"]
  return {
    time := ← r.required "time" Document.timestamp?
    enabled := ← r.required "enabled" Document.bool? }

end Event

end FeatureFlags
