import FeatureFlags.Json.Document
import FeatureFlags.Time.Timestamp
import FeatureFlags.Uuid

namespace FeatureFlags.Json.Document

abbrev Record := List (String × Document)

def record? (names : List String) : Document → Option Record
  | array items => if items.length ≤ names.length then some (names.zip items) else none
  | object members =>
    let known := members.filter fun (name, _) => names.contains name
    if (known.map (·.1)).Nodup then some known else none
  | _ => none

namespace Record

def required {α : Type} (name : String) (read : Document → Option α) (r : Record) : Option α :=
  (List.lookup name r).bind read

def withDefault {α : Type} (name : String) (absent : α) (read : Document → Option α) (r : Record) :
    Option α :=
  match List.lookup name r with
  | some d => read d
  | none => some absent

end Record

def bool? : Document → Option Bool
  | bool b => some b
  | _ => none

def string? : Document → Option String
  | string s => some s
  | _ => none

/-- An integer between bounds; doubles are none, whole or not. -/
def integer? (least greatest : Int) : Document → Option Int
  | number (.integer n) => if least ≤ n ∧ n ≤ greatest then some n else none
  | _ => none

def int32? (d : Document) : Option Int32 :=
  (d.integer? Int32.minValue.toInt Int32.maxValue.toInt).map Int32.ofInt

def int64? (d : Document) : Option Int64 :=
  (d.integer? Int64.minValue.toInt Int64.maxValue.toInt).map Int64.ofInt

def uint8? (d : Document) : Option UInt8 :=
  (d.integer? 0 (UInt8.size - 1)).map fun n => UInt8.ofNat n.toNat

def uint64? (d : Document) : Option UInt64 :=
  (d.integer? 0 (UInt64.size - 1)).map fun n => UInt64.ofNat n.toNat

def option? {α : Type} (read : Document → Option α) : Document → Option (Option α)
  | null => some none
  | d => (read d).map some

def list? {α : Type} (read : Document → Option α) : Document → Option (List α)
  | array items => items.mapM read
  | _ => none

def choice? : Document → Option String
  | string s => some s
  | object [(name, null)] => some name
  | _ => none

def uuid? (d : Document) : Option Uuid := d.string?.bind Uuid.parse?

def timestamp? (d : Document) : Option Time.Timestamp := d.string?.bind Time.Timestamp.parse?

end FeatureFlags.Json.Document
