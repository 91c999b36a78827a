import FeatureFlags.Codec.Targeting
import FeatureFlags.Feature.Basic

namespace FeatureFlags

open Json (Document)

def Json.ofOption {α : Type} (write : α → Json) : Option α → Json
  | some a => write a
  | none => .null

def Uuid.toJson (u : Uuid) : Json := .string u.write

def Time.Timestamp.toJson (t : Time.Timestamp) : Json := .string t.write

namespace Variant

def toJson (v : Variant) : Json :=
  .ofMembers [("id", v.id.toJson), ("name", .string v.name),
    ("rollout_percent", .int v.percent.toNat)]

def ofDocument? (d : Document) : Option Variant := do
  let r ← d.record? ["id", "name", "rollout_percent"]
  return {
    id := ← r.required "id" Document.uuid?
    name := ← r.required "name" Document.string?
    percent := ← r.withDefault "rollout_percent" 0 Document.uint8? }

end Variant

namespace RuleAction

def name : RuleAction → String
  | assign => "assign"
  | rollout => "include"
  | exclude => "exclude"

def ofName? : String → Option RuleAction
  | "assign" => some assign
  | "include" => some rollout
  | "exclude" => some exclude
  | _ => none

def toJson (a : RuleAction) : Json := .string a.name

def ofDocument? (d : Document) : Option RuleAction := d.choice?.bind ofName?

end RuleAction

namespace Rule

def toJson (rule : Rule) : Json :=
  .ofMembers [("id", rule.id.toJson), ("priority", .int rule.priority.toInt),
    ("conditions", rule.conditions.toJson), ("action", rule.action.toJson),
    ("variant_id", .ofOption Uuid.toJson rule.variantId)]

def ofDocument? (d : Document) : Option Rule := do
  let r ← d.record? ["id", "priority", "conditions", "action", "variant_id"]
  return {
    id := ← r.required "id" Document.uuid?
    priority := ← r.required "priority" Document.int32?
    conditions := ← r.withDefault "conditions" .always Targeting.Expression.ofDocument?
    action := ← r.required "action" RuleAction.ofDocument?
    variantId := ← r.withDefault "variant_id" none (Document.option? Document.uuid?) }

end Rule

namespace ScheduleAction

def name : ScheduleAction → String
  | enable => "enable"
  | disable => "disable"

def ofName? : String → Option ScheduleAction
  | "enable" => some enable
  | "disable" => some disable
  | _ => none

def toJson (a : ScheduleAction) : Json := .string a.name

def ofDocument? (d : Document) : Option ScheduleAction := d.choice?.bind ofName?

end ScheduleAction

namespace Schedule

def toJson (s : Schedule) : Json :=
  .ofMembers [("id", s.id.toJson), ("starts_at", .ofOption Time.Timestamp.toJson s.startsAt),
    ("ends_at", .ofOption Time.Timestamp.toJson s.endsAt),
    ("cron_expr", .ofOption .string s.cron),
    ("cron_duration_secs", .ofOption (fun n => .int n.toInt) s.seconds),
    ("timezone", .ofOption .string s.timezone), ("action", s.action.toJson)]

def ofDocument? (d : Document) : Option Schedule := do
  let r ← d.record?
    ["id", "starts_at", "ends_at", "cron_expr", "cron_duration_secs", "timezone", "action"]
  return {
    id := ← r.required "id" Document.uuid?
    startsAt := ← r.withDefault "starts_at" none (Document.option? Document.timestamp?)
    endsAt := ← r.withDefault "ends_at" none (Document.option? Document.timestamp?)
    cron := ← r.withDefault "cron_expr" none (Document.option? Document.string?)
    seconds := ← r.withDefault "cron_duration_secs" none (Document.option? Document.int64?)
    timezone := ← r.withDefault "timezone" none (Document.option? Document.string?)
    action := ← r.required "action" ScheduleAction.ofDocument? }

end Schedule

namespace FeatureKind

def name : FeatureKind → String
  | boolean => "boolean"
  | multivariant => "multivariant"

/-- A boolean feature may be called simple. -/
def ofName? : String → Option FeatureKind
  | "boolean" => some boolean
  | "simple" => some boolean
  | "multivariant" => some multivariant
  | _ => none

def toJson (k : FeatureKind) : Json := .string k.name

def ofDocument? (d : Document) : Option FeatureKind := d.choice?.bind ofName?

end FeatureKind

namespace Feature

def toJson (f : Feature) : Json :=
  .ofMembers [("id", f.id.toJson), ("project_id", f.project.toJson), ("key", .string f.key),
    ("kind", f.kind.toJson), ("default_variant", .string f.defaultVariant),
    ("enabled", .bool f.enabled), ("rollout_key", .ofOption .string f.rolloutKey),
    ("created_at", f.createdAt.toJson), ("variants", .array (f.variants.map Variant.toJson)),
    ("rules", .array (f.rules.map Rule.toJson)),
    ("schedules", .array (f.schedules.map Schedule.toJson))]

def ofDocument? (d : Document) : Option Feature := do
  let r ← d.record? ["id", "project_id", "key", "kind", "default_variant", "enabled", "rollout_key",
    "created_at", "variants", "rules", "schedules"]
  return {
    id := ← r.required "id" Document.uuid?
    project := ← r.required "project_id" Document.uuid?
    key := ← r.required "key" Document.string?
    kind := ← r.required "kind" FeatureKind.ofDocument?
    defaultVariant := ← r.withDefault "default_variant" "" Document.string?
    enabled := ← r.required "enabled" Document.bool?
    rolloutKey := ← r.withDefault "rollout_key" none (Document.option? Document.string?)
    createdAt := ← r.required "created_at" Document.timestamp?
    variants := ← r.withDefault "variants" [] (Document.list? Variant.ofDocument?)
    rules := ← r.withDefault "rules" [] (Document.list? Rule.ofDocument?)
    schedules := ← r.withDefault "schedules" [] (Document.list? Schedule.ofDocument?) }

end Feature

end FeatureFlags
