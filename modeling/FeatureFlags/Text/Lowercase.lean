import FeatureFlags.Text.Property

namespace FeatureFlags.Text

def cased : CharSet := (Property.find? "cased").getD .empty

/-- Characters that case looks through, such as accents. -/
def caseIgnorable : CharSet := (Property.find? "caseignorable").getD .empty

def meetsCased (s : List Char) : Bool :=
  match s.dropWhile fun c => caseIgnorable.contains c.toNat with
  | c :: _ => cased.contains c.toNat
  | [] => false

/-- The lower case of a character, from what stands before it (backwards) and after it: sigma is
final at the end of a word. -/
def lowerChar (before : List Char) (c : Char) (after : List Char) : List Char :=
  if c = 'Σ' then [if meetsCased before && !meetsCased after then 'ς' else 'σ']
  else if c = 'İ' then ['i', '\u0307']
  else if c.toNat < 0x80 then [c.toLower]
  else [Char.ofNat (CodeRun.apply CaseTable.lowercase c.toNat)]

def lowerFrom : List Char → List Char → List Char
  | _, [] => []
  | before, c :: after => lowerChar before c after ++ lowerFrom (c :: before) after

def lowercase (s : String) : String := String.ofList (lowerFrom [] s.toList)

end FeatureFlags.Text
