import FeatureFlags.Json.Value

namespace FeatureFlags

structure Context where
  attributes : Map String Json.Value

namespace Context

def empty : Context := ⟨.empty⟩

def get? (context : Context) (name : String) : Option Json :=
  (context.attributes.get? name).map (·.json)

def contains (context : Context) (name : String) : Bool := context.attributes.contains name

def insert (context : Context) (name : String) (value : Json) : Context :=
  ⟨context.attributes.insert name value.value⟩

def ofList (pairs : List (String × Json)) : Context :=
  ⟨.ofList (pairs.map fun p => (p.1, p.2.value))⟩

/-- The attribute that names the caller. -/
def userKey : String := "user_id"

def withUser (context : Context) (user : String) : Context := context.insert userKey (.string user)

def user? (context : Context) : Option Json := context.get? userKey

def size (context : Context) : Nat := context.attributes.size

def isEmpty (context : Context) : Bool := context.attributes.size == 0

def members (context : Context) : List (String × Json) :=
  context.attributes.entries.map fun p => (p.1, p.2.json)

def agrees (c d : Context) : Bool := Json.membersAgree c.members d.members

end Context

end FeatureFlags
