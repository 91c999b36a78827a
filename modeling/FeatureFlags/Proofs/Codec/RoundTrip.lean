import FeatureFlags.Codec.Evaluation
import FeatureFlags.Proofs.Codec.Record
import FeatureFlags.Proofs.Json.Ordered
import Mathlib.Algebra.Order.Ring.Int

namespace FeatureFlags

open Json (Document)
open Json.Document

namespace Context

theorem ofDocument?_toJson (c : Context) : ofDocument? (.ofJson c.toJson) = some c := by
  have hmembers := membersToJson?_ofMembers c.members (Json.Value.membersOrdered _)
  have hvalues : (c.members.map fun p => (p.1, p.2.value)) = c.attributes.entries := by
    simp [members, Function.comp_def]
  simp only [toJson, ofJson, ofDocument?, hmembers, Option.map_some, ofList, hvalues,
    Map.ofList_entries]

end Context

namespace Targeting

namespace Operator

@[simp] theorem ofName_name (op : Operator) : ofName op.name = op := by
  cases op <;> rfl

@[simp] theorem ofDocument?_toJson (op : Operator) : ofDocument? (.ofJson op.toJson) = some op := by
  simp [ofDocument?, toJson]

end Operator

namespace Condition

@[simp] theorem ofDocument?_toJson (c : Condition) :
    ofDocument? (.ofJson c.toJson) = some c := by
  obtain ⟨r, hr, hlookup⟩ := exists_record (v := c.toJson)
    ["attribute", "operator", "value"] rfl rfl (by decide)
  simp [ofDocument?, Record.required, Record.withDefault, hr, hlookup, List.lookup_cons,
    value?_ofJson]

end Condition

namespace GroupOperator

@[simp] theorem ofDocument?_name (op : GroupOperator) :
    ofDocument? (.ofJson (.string op.name)) = some op := by
  cases op <;> rfl

end GroupOperator

namespace Expression

mutual

theorem ofDocument?_toJson (e : Expression) : ofDocument? (.ofJson e.toJson) = some e := by
  cases e with
  | always => rfl
  | condition c =>
    have hdocument : ofJson (toJson (.condition c)) =
        .object [("condition", ofJson c.toJson)] := rfl
    rw [hdocument, ofDocument?, Condition.ofDocument?_toJson c]
    rfl
  | group operator children =>
    have hgroup : ofJson (groupJson operator (toJsons children)) =
        .object [("children", .array (ofItems (toJsons children))),
          ("operator", .string operator.name)] := rfl
    have hdocument : ofJson (toJson (.group operator children)) =
        .object [("group", ofJson (groupJson operator (toJsons children)))] := rfl
    obtain ⟨r, hr, hlookup⟩ := exists_record (v := groupJson operator (toJsons children))
      ["operator", "children"] rfl rfl (by decide)
    rw [hgroup] at hr
    rw [hdocument, ofDocument?, hgroup, groupOfDocument?, hr]
    simp [Record.required, hlookup, childrenOf?, listOfDocument?, ofDocuments?_toJsons children]

theorem ofDocuments?_toJsons (es : List Expression) :
    ofDocuments? (ofItems (toJsons es)) = some es := by
  cases es with
  | nil => rfl
  | cons e rest =>
    simp [toJsons, ofItems, ofDocuments?, ofDocument?_toJson e, ofDocuments?_toJsons rest]

end

end Expression

end Targeting

namespace Variant

@[simp] theorem ofDocument?_toJson (v : Variant) : ofDocument? (.ofJson v.toJson) = some v := by
  obtain ⟨r, hr, hlookup⟩ := exists_record (v := v.toJson)
    ["id", "name", "rollout_percent"] rfl rfl (by decide)
  simp [ofDocument?, Record.required, Record.withDefault, hr, hlookup, List.lookup_cons]

end Variant

namespace RuleAction

@[simp] theorem ofDocument?_toJson (a : RuleAction) : ofDocument? (.ofJson a.toJson) = some a := by
  cases a <;> rfl

end RuleAction

namespace Rule

theorem ofDocument?_toJson (rule : Rule) : ofDocument? (.ofJson rule.toJson) = some rule := by
  obtain ⟨r, hr, hlookup⟩ := exists_record (v := rule.toJson)
    ["id", "priority", "conditions", "action", "variant_id"] rfl rfl (by decide)
  have hvariant := option?_ofJson (fun u _ => uuid?_ofJson u) rfl (o := rule.variantId)
  have hconditions := rule.conditions.ofDocument?_toJson
  simp [ofDocument?, Record.required, Record.withDefault, hr, hlookup, List.lookup_cons, hvariant,
    hconditions]

end Rule

namespace ScheduleAction

@[simp] theorem ofDocument?_toJson (a : ScheduleAction) :
    ofDocument? (.ofJson a.toJson) = some a := by
  cases a <;> rfl

end ScheduleAction

namespace Schedule

structure Ordinary (s : Schedule) : Prop where
  starts : ∀ t ∈ s.startsAt, t.leap = false
  ends : ∀ t ∈ s.endsAt, t.leap = false

theorem Ordinary.ofDocument?_toJson {s : Schedule} (h : s.Ordinary) :
    ofDocument? (.ofJson s.toJson) = some s := by
  obtain ⟨r, hr, hlookup⟩ := exists_record (v := s.toJson)
    ["id", "starts_at", "ends_at", "cron_expr", "cron_duration_secs", "timezone", "action"]
    rfl rfl (by decide)
  have hstarts := option?_ofJson (fun t ht => timestamp?_ofJson (h.starts t ht)) rfl
  have hends := option?_ofJson (fun t ht => timestamp?_ofJson (h.ends t ht)) rfl
  have hcron := option?_ofJson (fun text _ => string?_ofJson text) rfl (o := s.cron)
  have hseconds := option?_ofJson (fun n _ => int64?_ofJson n) rfl (o := s.seconds)
  have htimezone := option?_ofJson (fun text _ => string?_ofJson text) rfl (o := s.timezone)
  simp [ofDocument?, Record.required, Record.withDefault, hr, hlookup, List.lookup_cons, hstarts,
    hends, hcron, hseconds, htimezone]

end Schedule

namespace FeatureKind

@[simp] theorem ofDocument?_toJson (k : FeatureKind) : ofDocument? (.ofJson k.toJson) = some k := by
  cases k <;> rfl

end FeatureKind

namespace Feature

/-- No timestamp is a leap second. -/
structure Ordinary (f : Feature) : Prop where
  created : f.createdAt.leap = false
  schedules : ∀ s ∈ f.schedules, s.Ordinary

theorem Ordinary.ofDocument?_toJson {f : Feature} (h : f.Ordinary) :
    ofDocument? (.ofJson f.toJson) = some f := by
  obtain ⟨r, hr, hlookup⟩ := exists_record (v := f.toJson)
    ["id", "project_id", "key", "kind", "default_variant", "enabled", "rollout_key", "created_at",
    "variants", "rules", "schedules"] rfl rfl (by decide)
  have hkey := option?_ofJson (fun text _ => string?_ofJson text) rfl (o := f.rolloutKey)
  have hcreated := timestamp?_ofJson h.created
  have hvariants := list?_ofJson f.variants fun v _ => v.ofDocument?_toJson
  have hrules := list?_ofJson f.rules fun rule _ => rule.ofDocument?_toJson
  have hschedules := list?_ofJson f.schedules fun s hs => (h.schedules s hs).ofDocument?_toJson
  simp [ofDocument?, Record.required, Record.withDefault, hr, hlookup, List.lookup_cons, hkey,
    hcreated, hvariants, hrules, hschedules]

end Feature

namespace Config

theorem ofDocument?_toJson (c : Config) : ofDocument? (.ofJson c.toJson) = some c := by
  obtain ⟨r, hr, hlookup⟩ := exists_record (v := c.toJson)
    ["default_rollout_key", "default_timezone", "max_cron_occurrences"] rfl rfl (by decide)
  simp [ofDocument?, Record.withDefault, hr, hlookup, List.lookup_cons]

end Config

namespace Reason

theorem action?_ofJson (a : RuleAction) : action? (.ofJson a.toJson) = some a := by
  cases a <;> rfl

theorem ofParts?_ruleMatch (rule : Uuid) (action : RuleAction) :
    ofParts? "rule_match" (.ofJson (.ofMembers [("rule_id", rule.toJson),
      ("action", action.toJson)])) = some (ruleMatch rule action) := by
  obtain ⟨r, hr, hlookup⟩ := exists_record (v := .ofMembers [("rule_id", rule.toJson),
    ("action", action.toJson)]) ["rule_id", "action"] rfl rfl (by decide)
  simp [ofParts?, Record.required, hr, hlookup, List.lookup_cons, action?_ofJson]

theorem ofDocument?_toJson (r : Reason) : ofDocument? (.ofJson r.toJson) = some r := by
  cases r with
  | ruleMatch rule action =>
    have hordered : (ruleMatch rule action).toJson.Ordered :=
      Json.ordered_ofMembers ⟨trivial, trivial, trivial, trivial⟩
    have hdocument : ofJson (ruleMatch rule action).toJson =
        .object [("action", ofJson action.toJson), ("kind", .string "rule_match"),
          ("rule_id", ofJson rule.toJson)] := rfl
    have hrest : Document.object [("action", ofJson action.toJson),
        ("rule_id", ofJson rule.toJson)] = ofJson (.ofMembers [("rule_id", rule.toJson),
          ("action", action.toJson)]) := rfl
    have hmeaning := toJson?_ofJson _ hordered
    rw [hdocument] at hmeaning ⊢
    simp [ofDocument?, hmeaning, hrest, ofParts?_ruleMatch]
  | _ => rfl

end Reason

namespace Evaluation

theorem ofDocument?_toJson (e : Evaluation) : ofDocument? (.ofJson e.toJson) = some e := by
  obtain ⟨r, hr, hlookup⟩ := exists_record (v := e.toJson)
    ["value", "enabled", "found", "reason"] rfl rfl (by decide)
  simp [ofDocument?, Record.required, hr, hlookup, List.lookup_cons, Reason.ofDocument?_toJson]

end Evaluation

namespace Event

theorem ofDocument?_toJson {e : Event Time.Timestamp} (h : e.time.leap = false) :
    ofDocument? (.ofJson e.toJson) = some e := by
  obtain ⟨r, hr, hlookup⟩ := exists_record (v := e.toJson) ["time", "enabled"] rfl rfl (by decide)
  simp [ofDocument?, Record.required, hr, hlookup, List.lookup_cons, timestamp?_ofJson h]

end Event

/-- What is written is read back, whatever it is: a feature and an event without leap seconds,
settings, a context, an evaluation, a reason. -/
theorem documents_read_back :
    (∀ f : Feature, f.Ordinary → Feature.ofDocument? (.ofJson f.toJson) = some f) ∧
      (∀ c : Config, Config.ofDocument? (.ofJson c.toJson) = some c) ∧
      (∀ c : Context, Context.ofDocument? (.ofJson c.toJson) = some c) ∧
      (∀ e : Event Time.Timestamp, e.time.leap = false →
        Event.ofDocument? (.ofJson e.toJson) = some e) ∧
      (∀ e : Evaluation, Evaluation.ofDocument? (.ofJson e.toJson) = some e) ∧
      ∀ r : Reason, Reason.ofDocument? (.ofJson r.toJson) = some r := by
  refine ⟨?_, Config.ofDocument?_toJson, Context.ofDocument?_toJson, ?_,
    Evaluation.ofDocument?_toJson, Reason.ofDocument?_toJson⟩
  · intro f h
    exact h.ofDocument?_toJson
  · intro e h
    exact Event.ofDocument?_toJson h

def eve : Time.Timestamp := ⟨⟨(Time.Instant.ofYear 2026).nanos - 1000000⟩, false, by decide⟩

def launch : Feature :=
  { Feature.multivariant ⟨1⟩ ⟨2⟩ "launch" "old" [⟨⟨3⟩, "new", 40⟩] ⟨.ofYear 2020, false, by decide⟩
    with
    rolloutKey := some "account"
    rules := [⟨⟨4⟩, -1, .group .andNot [.condition ⟨"region", .oneOf, .array [.string "eu"]⟩,
      .group .or [.always,
        .condition ⟨"plan", .unknown, .ofMembers [("b", .null), ("a", .int 1)]⟩]],
      .rollout, some ⟨3⟩⟩]
    schedules := [⟨⟨5⟩, none, some eve, some "0 9 * * Mon", some 3600, some "Europe/Berlin",
      .disable⟩] }

theorem launch_read_back :
    launch.Ordinary ∧ Feature.ofDocument? (.ofJson launch.toJson) = some launch ∧
      eve.leap = false ∧
      Event.ofDocument? (.ofJson (Event.toJson ⟨eve, true⟩)) = some ⟨eve, true⟩ := by
  have hlaunch : launch.Ordinary := by
    refine ⟨rfl, ?_⟩
    intro s hs
    obtain rfl := List.mem_singleton.1 hs
    refine ⟨fun t ht => absurd ht (Option.not_mem_none t), ?_⟩
    intro t ht
    obtain rfl := Option.mem_some_iff.1 ht
    rfl
  exact ⟨hlaunch, documents_read_back.1 launch hlaunch, rfl,
    documents_read_back.2.2.2.1 ⟨eve, true⟩ rfl⟩

end FeatureFlags
