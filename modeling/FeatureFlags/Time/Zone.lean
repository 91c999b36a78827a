import FeatureFlags.Text.Blank
import FeatureFlags.Time.Instant
import FeatureFlags.Time.ZoneTable

namespace FeatureFlags.Time

namespace Offsets

/-- The offset at a second of universal time: that of the last change until then. -/
def offsetFrom (offset : Int) : (changes : List (Int × Int)) → (second : Int) → Int
  | [], _ => offset
  | (change, next) :: rest, second =>
    if second < change then offset else offsetFrom next rest second

def offsetAt (offsets : Offsets) (second : Int) : Int :=
  offsetFrom offsets.initial offsets.changes second

def showingFrom (offset : Int) : (changes : List (Int × Int)) → (shown : Int) → List Int
  | [], shown => [shown - offset]
  | (change, next) :: rest, shown =>
    (if shown - offset < change then [shown - offset] else []) ++
      (showingFrom next rest shown).filter (change ≤ ·)

def showing (offsets : Offsets) (shown : Int) : List Int :=
  showingFrom offsets.initial offsets.changes shown

theorem mem_showingFrom {offset shown second : Int} {changes : List (Int × Int)} :
    second ∈ showingFrom offset changes shown ↔
      second + offsetFrom offset changes second = shown := by
  induction changes generalizing offset with
  | nil =>
    simp only [showingFrom, offsetFrom, List.mem_singleton]
    omega
  | cons head rest ih =>
    obtain ⟨change, next⟩ := head
    simp only [showingFrom, offsetFrom, List.mem_append, List.mem_filter, ih, decide_eq_true_eq,
      List.mem_ite_nil_right, List.mem_singleton]
    split <;> omega

theorem mem_showing {offsets : Offsets} {shown second : Int} :
    second ∈ offsets.showing shown ↔ second + offsets.offsetAt second = shown :=
  mem_showingFrom

end Offsets

structure Zone where
  name : String
  offsets : Offsets
deriving DecidableEq

inductive ZoneError where
  | blank
  | unknown (name : String)
deriving DecidableEq

def ZoneError.message : ZoneError → String
  | blank => "Invalid timezone: empty timezone name"
  | unknown name => "Invalid timezone: " ++ name

namespace Zone

def utc : Zone := ⟨"UTC", ⟨0, []⟩⟩

def find? (name : String) : Option Zone :=
  (ZoneTable.rows.find? (·.names.contains name)).map fun row => ⟨name, row.history⟩

theorem find?_utc : find? "UTC" = some utc := by decide

theorem name_of_find? {name : String} {zone : Zone} (h : find? name = some zone) :
    zone.name = name := by
  obtain ⟨row, _, rfl⟩ := Option.map_eq_some_iff.1 h
  rfl

/-- Blanks around a name do not matter. -/
def parse (text : String) : Except ZoneError Zone :=
  let name := Text.trim text
  if name.isEmpty then .error .blank
  else match find? name with
    | some zone => .ok zone
    | none => .error (.unknown name)

def resolve (name : Option String) (fallback : Zone) : Zone :=
  match name.map parse with
  | some (.ok zone) => zone
  | _ => fallback

def clock (zone : Zone) (t : Instant) : ClockTime :=
  ClockTime.ofSeconds (t.seconds + zone.offsets.offsetAt t.seconds)

/-- The instants at which clocks show `shown`, in order: mostly one, none where they are put forward
and two where they are put back. -/
def instantsOf (zone : Zone) (shown : ClockTime) : List Instant :=
  (zone.offsets.showing shown.seconds).map .ofSeconds

end Zone

end FeatureFlags.Time
