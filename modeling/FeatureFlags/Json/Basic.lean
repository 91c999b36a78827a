import FeatureFlags.Fields
import FeatureFlags.Number.Shortest

namespace FeatureFlags

inductive Number where
  | integer (n : Int)
  | real (x : Binary64)
deriving DecidableEq

namespace Number

def toBinary64? : Number → Option Binary64
  | integer n => Binary64.ofInt? n
  | real x => some x

def write : Number → String
  | integer n => toString n
  | real x => FloatLayout.json.write x

/-- Agreement as values: the two zeros of the doubles are one. -/
def agrees : Number → Number → Bool
  | integer m, integer n => m == n
  | real x, real y => x.value == y.value
  | _, _ => false

end Number

inductive Json where
  | null
  | bool (b : Bool)
  | number (n : Number)
  | string (s : String)
  | array (items : List Json)
  | object (members : List (String × Json))

namespace Json

/-- An object of members in any order; of members with one name the last stays. -/
def ofMembers (members : List (String × Json)) : Json := object (Fields.ofList members)

def int (n : Int) : Json := number (.integer n)

mutual

def agrees : Json → Json → Bool
  | null, null => true
  | bool a, bool b => a == b
  | number m, number n => m.agrees n
  | string s, string t => s == t
  | array xs, array ys => itemsAgree xs ys
  | object fs, object gs => membersAgree fs gs
  | _, _ => false

def itemsAgree : List Json → List Json → Bool
  | [], [] => true
  | x :: xs, y :: ys => x.agrees y && itemsAgree xs ys
  | _, _ => false

def membersAgree : List (String × Json) → List (String × Json) → Bool
  | [], [] => true
  | (k, x) :: fs, (l, y) :: gs => k == l && x.agrees y && membersAgree fs gs
  | _, _ => false

end

end Json

end FeatureFlags
