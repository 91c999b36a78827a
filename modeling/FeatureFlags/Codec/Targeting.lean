import FeatureFlags.Codec.Reader
import FeatureFlags.Targeting.Condition

namespace FeatureFlags

open Json (Document)

namespace Context

def toJson (context : Context) : Json := .object context.members

def ofDocument? : Document → Option Context
  | .object members => (Document.membersToJson? members).map Context.ofList
  | _ => none

end Context

namespace Targeting

namespace Operator

def name : Operator → String
  | eq => "eq"
  | neq => "neq"
  | oneOf => "in"
  | notOneOf => "not_in"
  | gt => "gt"
  | gte => "gte"
  | lt => "lt"
  | lte => "lte"
  | regex => "regex"
  | percentage => "percentage"
  | unknown => "unknown"

/-- Every name is that of an operator, if of the one that nobody knows. -/
def ofName : String → Operator
  | "eq" => eq
  | "neq" => neq
  | "in" => oneOf
  | "not_in" => notOneOf
  | "gt" => gt
  | "gte" => gte
  | "lt" => lt
  | "lte" => lte
  | "regex" => regex
  | "percentage" => percentage
  | _ => unknown

def toJson (op : Operator) : Json := .string op.name

def ofDocument? (d : Document) : Option Operator := d.choice?.map ofName

end Operator

namespace Condition

def toJson (c : Condition) : Json :=
  .ofMembers [("attribute", .string c.key), ("operator", c.operator.toJson),
    ("value", c.operand.json)]

def ofDocument? (d : Document) : Option Condition := do
  let r ← d.record? ["attribute", "operator", "value"]
  return {
    key := ← r.required "attribute" Document.string?
    operator := ← r.required "operator" Operator.ofDocument?
    operand := ← r.withDefault "value" .null Document.value? }

end Condition

namespace GroupOperator

def name : GroupOperator → String
  | and => "and"
  | or => "or"
  | andNot => "and_not"

def ofName? : String → Option GroupOperator
  | "and" => some and
  | "or" => some or
  | "and_not" => some andNot
  | _ => none

def ofDocument? (d : Document) : Option GroupOperator := d.choice?.bind ofName?

end GroupOperator

namespace Expression

def groupJson (operator : GroupOperator) (children : List Json) : Json :=
  .ofMembers [("operator", .string operator.name), ("children", .array children)]

mutual

def toJson : Expression → Json
  | always => .string "always"
  | condition c => .ofMembers [("condition", c.toJson)]
  | group operator children => .ofMembers [("group", groupJson operator (toJsons children))]

def toJsons : List Expression → List Json
  | [] => []
  | e :: rest => e.toJson :: toJsons rest

end

mutual

def ofDocument? : Document → Option Expression
  | .string "always" => some always
  | .object [("always", .null)] => some always
  | .object [("condition", d)] => (Condition.ofDocument? d).map condition
  | .object [("group", d)] => groupOfDocument? d
  | _ => none

/-- A group is a record of an operator and of children, which may be missing. -/
def groupOfDocument? : Document → Option Expression
  | .array [operator] => do return group (← GroupOperator.ofDocument? operator) []
  | .array [operator, children] => do
    return group (← GroupOperator.ofDocument? operator) (← listOfDocument? children)
  | .object members => do
    let r ← (Document.object members).record? ["operator", "children"]
    return group (← r.required "operator" GroupOperator.ofDocument?) (← childrenOf? members)
  | _ => none

def childrenOf? : List (String × Document) → Option (List Expression)
  | [] => some []
  | (name, d) :: rest => if name = "children" then listOfDocument? d else childrenOf? rest

def listOfDocument? : Document → Option (List Expression)
  | .array items => ofDocuments? items
  | _ => none

def ofDocuments? : List Document → Option (List Expression)
  | [] => some []
  | d :: rest => do return (← ofDocument? d) :: (← ofDocuments? rest)

end

end Expression

end Targeting

end FeatureFlags
