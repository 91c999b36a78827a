import FeatureFlags.Json.Printer
import FeatureFlags.Number.Reading
import FeatureFlags.Text.Blank

namespace FeatureFlags.Json

/-- A string is its own text and null is empty; anything else is its compact JSON. -/
def text : Json → String
  | null => ""
  | string s => s
  | v => v.write

/-- Numbers, and strings that spell a finite number. -/
def toFinite? : Json → Option Binary64
  | number n => n.toBinary64?
  | string s => Binary64.parse? (Text.trimChars s.toList)
  | _ => none

def clamp64 (n : Int) : Int := max Int64.minValue.toInt (min n Int64.maxValue.toInt)

/-- An integer of 64 bits with sign is kept; any other number loses its fraction and is clamped. -/
def toInteger? (v : Json) : Option Int :=
  match v with
  | number (.integer n) =>
    if clamp64 n = n then some n else v.toFinite?.map fun x => clamp64 x.trunc
  | _ => v.toFinite?.map fun x => clamp64 x.trunc

/-- The members of an array, or the trimmed parts of a string between commas. -/
def toTexts? : Json → Option (List String)
  | array items => some (items.map text)
  | string s =>
    some ((Text.splitAt ',' s.toList).map fun part => String.ofList (Text.trimChars part))
  | _ => none

end FeatureFlags.Json
