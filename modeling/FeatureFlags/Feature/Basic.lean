import FeatureFlags.Rollout
import FeatureFlags.Schedule.Recurrence
import FeatureFlags.Targeting.Condition

namespace FeatureFlags

open Time

inductive FeatureKind where
  | boolean
  | multivariant
deriving DecidableEq

inductive RuleAction where
  | assign
  | rollout
  | exclude
deriving DecidableEq

structure Rule where
  id : Uuid
  /-- Rules with a lower priority come first. -/
  priority : Int32
  conditions : Targeting.Expression
  action : RuleAction
  variantId : Option Uuid

namespace Rule

def ofAction (id : Uuid) (priority : Int32) (action : RuleAction) : Rule :=
  ⟨id, priority, .always, action, none⟩

def assign (id : Uuid) (priority : Int32) (variantId : Uuid) : Rule :=
  ⟨id, priority, .always, .assign, some variantId⟩

def holds (rule : Rule) (context : Context) : Bool := rule.conditions.holds context

end Rule

structure Feature where
  id : Uuid
  project : Uuid
  key : String
  kind : FeatureKind
  defaultVariant : String
  enabled : Bool
  /-- The attribute that puts callers into buckets. -/
  rolloutKey : Option String
  createdAt : Timestamp
  variants : List Variant
  rules : List Rule
  schedules : List Schedule

namespace Feature

def new (id project : Uuid) (key : String) (kind : FeatureKind) (defaultVariant : String)
    (createdAt : Timestamp) : Feature :=
  ⟨id, project, key, kind, defaultVariant, true, none, createdAt, [], [], []⟩

def boolean (id project : Uuid) (key : String) (createdAt : Timestamp) : Feature :=
  new id project key .boolean "true" createdAt

def multivariant (id project : Uuid) (key defaultVariant : String) (variants : List Variant)
    (createdAt : Timestamp) : Feature :=
  { new id project key .multivariant defaultVariant createdAt with variants }

def addRule (f : Feature) (rule : Rule) : Feature := { f with rules := f.rules ++ [rule] }

def addSchedule (f : Feature) (schedule : Schedule) : Feature :=
  { f with schedules := f.schedules ++ [schedule] }

def variant? (f : Feature) (id : Uuid) : Option Variant := f.variants.find? (·.id == id)

/-- Rules by priority; those of one priority keep their order. -/
def rulesByPriority (f : Feature) : List Rule :=
  f.rules.mergeSort fun a b => decide (a.priority ≤ b.priority)

def firstMatchingRule? (f : Feature) (context : Context) : Option Rule :=
  f.rulesByPriority.find? (·.holds context)

def created (f : Feature) : Instant := f.createdAt.instant

/-- Whether the feature is on at an instant. The last of the active schedules decides, and where
none is active the baseline. -/
def stateAt (f : Feature) (reading : Reading) (time : Instant) : Bool :=
  if !f.enabled then false
  else if f.schedules.isEmpty then true
  else
    match f.schedules.reverse.find? (·.isActive reading f.created time) with
    | some schedule => schedule.action.enables
    | none => Schedule.baseline f.schedules

end Feature

end FeatureFlags
