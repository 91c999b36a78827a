import FeatureFlags.Pattern.Meaning
import FeatureFlags.Rollout
import FeatureFlags.Targeting.Coercion
import FeatureFlags.Targeting.Context
import FeatureFlags.Text.Lowercase

namespace FeatureFlags.Targeting

inductive Operator where
  | eq
  | neq
  | oneOf
  | notOneOf
  | gt
  | gte
  | lt
  | lte
  | regex
  | percentage
  /-- An operator nobody knows; it matches nothing. -/
  | unknown
deriving DecidableEq

namespace Operator

/-- Whether a list of texts has the text of `actual`, whatever the case; `none` where the operand is
no list. -/
def membership? (actual operand : Json) : Option Bool :=
  operand.toTexts?.map fun items =>
    items.any fun item => Text.lowercase item == Text.lowercase actual.text

def compares (test : Binary64 → Binary64 → Bool) (actual operand : Json) : Bool :=
  match actual.toFinite?, operand.toFinite? with
  | some a, some b => test a b
  | _, _ => false

theorem compares_of_finite (test : Binary64 → Binary64 → Bool) {actual operand : Json}
    {a b : Binary64} (ha : actual.toFinite? = some a) (hb : operand.toFinite? = some b) :
    compares test actual operand = test a b := by
  rw [compares, ha, hb]

theorem compares_of_none (test : Binary64 → Binary64 → Bool) {actual operand : Json}
    (h : actual.toFinite? = none ∨ operand.toFinite? = none) :
    compares test actual operand = false := by
  rw [compares]
  rcases h with h | h
  · rw [h]
  · rw [h]
    cases actual.toFinite? <;> rfl

def holds (op : Operator) (actual operand : Json) : Bool :=
  match op with
  | eq => actual.text == operand.text
  | neq => actual.text != operand.text
  | oneOf => (membership? actual operand).getD false
  | notOneOf => !(membership? actual operand).getD true
  | gt => compares (fun a b => b < a) actual operand
  | gte => compares (fun a b => b ≤ a) actual operand
  | lt => compares (fun a b => a < b) actual operand
  | lte => compares (fun a b => a ≤ b) actual operand
  | regex => Pattern.isMatch operand.text actual.text
  | percentage =>
    operand.toInteger?.any fun threshold => (Rollout.bucket actual.text : Int) < threshold
  | unknown => false

end Operator

structure Condition where
  key : String
  operator : Operator
  operand : Json.Value

/-- A missing attribute never matches. -/
def Condition.holds (condition : Condition) (context : Context) : Bool :=
  (context.get? condition.key).any fun actual =>
    condition.operator.holds actual condition.operand

inductive GroupOperator where
  | and
  | or
  /-- The first and none of the others. -/
  | andNot
deriving DecidableEq

inductive Expression where
  | always
  | condition (c : Condition)
  | group (operator : GroupOperator) (children : List Expression)

namespace Expression

mutual

def holds (context : Context) : Expression → Bool
  | always => true
  | condition c => c.holds context
  | group .and children => allHold context children
  | group .or children => anyHolds context children
  | group .andNot [] => false
  | group .andNot (first :: rest) => first.holds context && !anyHolds context rest

def allHold (context : Context) : List Expression → Bool
  | [] => true
  | e :: rest => e.holds context && allHold context rest

def anyHolds (context : Context) : List Expression → Bool
  | [] => false
  | e :: rest => e.holds context || anyHolds context rest

end

theorem allHold_eq_all (context : Context) (children : List Expression) :
    allHold context children = children.all (holds context) := by
  induction children with
  | nil => rfl
  | cons e rest ih => rw [allHold, ih, List.all_cons]

theorem anyHolds_eq_any (context : Context) (children : List Expression) :
    anyHolds context children = children.any (holds context) := by
  induction children with
  | nil => rfl
  | cons e rest ih => rw [anyHolds, ih, List.any_cons]

end Expression

end FeatureFlags.Targeting
