import FeatureFlags.Json.Numeral

namespace FeatureFlags.Json

inductive Document where
  | null
  | bool (b : Bool)
  | number (n : Number)
  | string (s : String)
  | array (items : List Document)
  | object (members : List (String × Document))
  | unreadable

namespace Document

mutual

def ofJson : Json → Document
  | .null => null
  | .bool b => bool b
  | .number n => number n
  | .string s => string s
  | .array xs => array (ofItems xs)
  | .object fs => object (ofMembers fs)

def ofItems : List Json → List Document
  | [] => []
  | x :: xs => ofJson x :: ofItems xs

def ofMembers : List (String × Json) → List (String × Document)
  | [] => []
  | (k, x) :: fs => (k, ofJson x) :: ofMembers fs

end

mutual

/-- The value of a document; of members with one name the last stays. -/
def toJson? : Document → Option Json
  | null => some .null
  | bool b => some (.bool b)
  | number n => some (.number n)
  | string s => some (.string s)
  | array xs => do return .array (← itemsToJson? xs)
  | object fs => do return .ofMembers (← membersToJson? fs)
  | unreadable => none

def itemsToJson? : List Document → Option (List Json)
  | [] => some []
  | x :: xs => do return (← x.toJson?) :: (← itemsToJson? xs)

def membersToJson? : List (String × Document) → Option (List (String × Json))
  | [] => some []
  | (k, x) :: fs => do return (k, ← x.toJson?) :: (← membersToJson? fs)

end

end Document

end FeatureFlags.Json
