import FeatureFlags.Config
import FeatureFlags.Feature.Basic

namespace FeatureFlags

open Time

inductive Reason where
  | notFound
  | disabled
  | scheduledOff
  | booleanDefault
  | ruleMatch (rule : Uuid) (action : RuleAction)
  /-- No rule holds, and the caller was put into a bucket. -/
  | rollout
  /-- No rule holds, and the caller has nothing to go by. -/
  | fallthrough
deriving DecidableEq

structure Evaluation where
  /-- The name of the variant; empty if there is none. -/
  value : String
  enabled : Bool
  found : Bool
  reason : Reason
deriving DecidableEq

namespace Evaluation

def notFound : Evaluation := ⟨"", false, false, .notFound⟩

def off (reason : Reason) : Evaluation := ⟨"", false, true, reason⟩

def served (value : String) (reason : Reason) : Evaluation := ⟨value, true, true, reason⟩

end Evaluation

namespace Feature

def rolloutText? (f : Feature) (config : Config) (context : Context) : Option String :=
  (context.get? (f.rolloutKey.getD config.rolloutKey)).map Json.text

/-- The variant of the caller's bucket, or the default one. -/
def rolloutValue (f : Feature) (config : Config) (context : Context) : String :=
  match f.rolloutText? config context with
  | some text => Rollout.pickName f.variants text f.defaultVariant
  | none => f.defaultVariant

/-- What a rule serves; nothing if its variant is unknown. -/
def ruleValue? (f : Feature) (config : Config) (context : Context) (rule : Rule) : Option String :=
  match rule.action with
  | .assign => (rule.variantId.bind f.variant?).map Variant.name
  | .rollout => some (f.rolloutValue config context)
  | .exclude => some f.defaultVariant

def decide? (f : Feature) (config : Config) (context : Context) (rule : Rule) : Option Evaluation :=
  if rule.holds context then
    (f.ruleValue? config context rule).map (.served · (.ruleMatch rule.id rule.action))
  else none

/-- What is served where no rule decides. -/
def unmatched (f : Feature) (config : Config) (context : Context) : Evaluation :=
  .served (f.rolloutValue config context)
    (if (f.rolloutText? config context).isSome then .rollout else .fallthrough)

def evaluate (f : Feature) (config : Config) (context : Context) : Evaluation :=
  if !f.enabled then .off .disabled
  else match f.kind with
    | .boolean => .served f.defaultVariant .booleanDefault
    | .multivariant =>
      (f.rulesByPriority.findSome? (f.decide? config context)).getD (f.unmatched config context)

def evaluateAt (f : Feature) (config : Config) (context : Context) (time : Instant) : Evaluation :=
  if f.enabled && !f.stateAt (config.reading none) time then .off .scheduledOff
  else f.evaluate config context

end Feature

end FeatureFlags
