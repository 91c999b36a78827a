import FeatureFlags.Config
import FeatureFlags.Proofs.Text.Digits

namespace FeatureFlags

open Time

namespace Time.Zone

variable {text name : String} {zone : Zone} {e : ZoneError}

/-- A zone of the table, under its name there. -/
def Known (zone : Zone) : Prop := find? zone.name = some zone

theorem known_of_find? (h : find? name = some zone) : zone.Known := by
  rw [Known, name_of_find? h, h]

theorem known_utc : utc.Known := known_of_find? find?_utc

/-- A text leaves nothing to the zone that one falls back on. -/
def Settles (text : String) (zone : Zone) : Prop :=
  ∀ fallback : Zone, fallback.Known → resolve (some text) fallback = zone

theorem resolve_of_ok (h : parse text = .ok zone) (fallback : Zone) :
    resolve (some text) fallback = zone := by
  rw [resolve, Option.map_some, h]

theorem resolve_of_error (h : parse text = .error e) (fallback : Zone) :
    resolve (some text) fallback = fallback := by
  rw [resolve, Option.map_some, h]

theorem exists_known_ne_utc : ∃ zone : Zone, zone.Known ∧ zone ≠ utc := by
  have hsome : (find? "Asia/Tokyo").isSome = true := by decide
  obtain ⟨zone, hzone⟩ := Option.isSome_iff_exists.1 hsome
  refine ⟨zone, known_of_find? hzone, ?_⟩
  rintro rfl
  exact absurd (name_of_find? hzone) (by decide)

theorem settles_iff : Settles text zone ↔ parse text = .ok zone := by
  constructor
  · intro h
    have hutc := h utc known_utc
    cases hparse : parse text with
    | ok named => rw [← hutc, resolve_of_ok hparse]
    | error e =>
      -- Two zones to fall back on cannot both be the one that is settled.
      obtain ⟨other, hknown, hne⟩ := exists_known_ne_utc
      have hother := h other hknown
      rw [resolve_of_error hparse] at hutc hother
      exact absurd (hother.trans hutc.symm) hne
  · intro h fallback _
    exact resolve_of_ok h fallback

theorem resolve_of_not_settles (h : ¬ ∃ zone, Settles text zone) (fallback : Zone) :
    resolve (some text) fallback = fallback := by
  cases hparse : parse text with
  | ok zone => exact absurd ⟨zone, settles_iff.2 hparse⟩ h
  | error e => exact resolve_of_error hparse fallback

end Time.Zone

namespace Config

variable {c : Config} {s : List Char}

theorem validate_eq_ok_iff :
    c.validate = .ok () ↔ Text.isBlankText c.rolloutKey = false ∧ 0 < c.maxOccurrences ∧
      ∃ zone, Zone.parse c.timezone = .ok zone := by
  have hpositive : 0 < c.maxOccurrences ↔ c.maxOccurrences ≠ 0 := UInt64.pos_iff_ne_zero
  rw [validate, hpositive]
  cases Text.isBlankText c.rolloutKey with
  | true => simp
  | false =>
    by_cases hzero : c.maxOccurrences = 0
    · simp [hzero]
    · cases Zone.parse c.timezone <;> simp [hzero]

theorem isOk_iff {ε α : Type} {x : Except ε α} : x.isOk = true ↔ ∃ a, x = .ok a := by
  cases x with
  | error e => simp [Except.isOk, Except.toBool]
  | ok a => simp [Except.isOk, Except.toBool]

theorem filter_getD {α : Type} {p : α → Bool} {fallback : α} (h : p fallback = true)
    (setting : Option α) : p ((setting.filter p).getD fallback) = true := by
  cases hsetting : setting.filter p with
  | none => exact h
  | some a => exact (Option.filter_eq_some_iff.1 hsetting).2

theorem validate_ofTexts (rolloutKey timezone maxOccurrences : Option String) :
    (ofTexts rolloutKey timezone maxOccurrences).validate = .ok () := by
  have hkey : (!Text.isBlankText (ofTexts rolloutKey timezone maxOccurrences).rolloutKey) = true :=
    filter_getD (p := (!Text.isBlankText ·)) (by decide) rolloutKey
  have hzone : (Zone.parse (ofTexts rolloutKey timezone maxOccurrences).timezone).isOk = true :=
    filter_getD (p := fun name => (Zone.parse name).isOk) (by decide) timezone
  have hlimit : decide (0 < (ofTexts rolloutKey timezone maxOccurrences).maxOccurrences) = true :=
    filter_getD (p := fun limit : UInt64 => decide (0 < limit)) (by decide) _
  rw [Bool.not_eq_true'] at hkey
  rw [isOk_iff] at hzone
  exact validate_eq_ok_iff.2 ⟨hkey, of_decide_eq_true hlimit, hzone⟩

theorem natural?_of_allDigits (hs : Text.AllDigits s) (hne : s ≠ [])
    (hsize : Text.decimalValue s < UInt64.size) :
    natural? s = some (.ofNat (Text.decimalValue s)) := by
  have hsign : ∀ ds, s ≠ '+' :: ds := by
    rintro ds rfl
    exact (Text.ne_sign_of_isDigit (hs '+' List.mem_cons_self)).2 rfl
  have hall : s.all Char.isDigit = true := List.all_eq_true.2 hs
  have hnonempty : s.isEmpty = false := List.isEmpty_eq_false_iff.2 hne
  rw [natural?]
  · simp [hall, hnonempty, hsize]
  · exact hsign

theorem natural?_toString (n : UInt64) :
    natural? (Text.trimChars (toString n.toNat).toList) = some n := by
  have hdigits := Text.allDigits_toString n.toNat
  have hvalue := Text.decimalValue_toString n.toNat
  have hsize : Text.decimalValue (toString n.toNat).toList < UInt64.size := hvalue.symm ▸ n.toNat_lt
  rw [Text.trimChars_of_solid hdigits.solid,
    natural?_of_allDigits hdigits (Text.toString_ne_nil _) hsize, hvalue, UInt64.ofNat_toNat]

theorem ofTexts_of_validate (h : c.validate = .ok ()) :
    ofTexts (some c.rolloutKey) (some c.timezone) (some (toString c.maxOccurrences.toNat)) = c := by
  obtain ⟨hkey, hlimit, zone, hzone⟩ := validate_eq_ok_iff.1 h
  have hok : (Zone.parse c.timezone).isOk = true := by
    rw [hzone]
    rfl
  simp only [ofTexts, Option.bind_some, natural?_toString, Option.filter_some, hkey, hok, hlimit,
    Bool.not_false, decide_true, if_true, Option.getD_some]

/-- What is loaded from texts can be worked with, each setting by its own text, and whatever can be
worked with can be loaded. Settings can be worked with if there is an attribute, some firings are
looked at and the text for the zone settles it; that is then the default zone. A text that does not
leaves any zone that one falls back on in its place, and universal time for the default. -/
theorem usable_iff_valid :
    (∀ rolloutKey timezone maxOccurrences,
        (ofTexts rolloutKey timezone maxOccurrences).validate = .ok ()) ∧
      (∀ rolloutKey timezone maxOccurrences rolloutKey' timezone' maxOccurrences',
        (ofTexts rolloutKey timezone maxOccurrences).rolloutKey =
            (ofTexts rolloutKey timezone' maxOccurrences').rolloutKey ∧
          (ofTexts rolloutKey timezone maxOccurrences).timezone =
            (ofTexts rolloutKey' timezone maxOccurrences').timezone ∧
          (ofTexts rolloutKey timezone maxOccurrences).maxOccurrences =
            (ofTexts rolloutKey' timezone' maxOccurrences).maxOccurrences) ∧
      ∀ c : Config,
        (c.validate = .ok () → ofTexts (some c.rolloutKey) (some c.timezone)
          (some (toString c.maxOccurrences.toNat)) = c) ∧
        (c.validate = .ok () ↔ Text.isBlankText c.rolloutKey = false ∧ 0 < c.maxOccurrences ∧
          ∃ zone, Zone.Settles c.timezone zone) ∧
        (∀ zone, Zone.Settles c.timezone zone → c.zone = zone) ∧
        ((¬ ∃ zone, Zone.Settles c.timezone zone) →
          (∀ fallback, Zone.resolve (some c.timezone) fallback = fallback) ∧ c.zone = .utc) := by
  refine ⟨validate_ofTexts, fun _ _ _ _ _ _ => ⟨rfl, rfl, rfl⟩, ?_⟩
  intro c
  refine ⟨ofTexts_of_validate, ?_, fun zone h => h .utc Zone.known_utc, fun h => ?_⟩
  · simp only [validate_eq_ok_iff, Zone.settles_iff]
  · exact ⟨Zone.resolve_of_not_settles h, Zone.resolve_of_not_settles h .utc⟩

/-- Blanks around the name of a zone are kept, and do not matter. A zone that is unknown can neither
be worked with nor loaded. -/
theorem usable_accounts :
    let accounts : Config := ⟨"account", " Europe/Berlin\t", 5⟩
    let nowhere : Config := { accounts with timezone := "Nowhere/Special" }
    accounts.validate = .ok () ∧
      ofTexts (some "account") (some " Europe/Berlin\t") (some "5") = accounts ∧
      (∃ zone, Zone.Settles accounts.timezone zone ∧ accounts.zone = zone ∧
        zone.name = "Europe/Berlin") ∧
      (¬ ∃ zone, Zone.Settles nowhere.timezone zone) ∧ nowhere.zone = .utc ∧
      (ofTexts (some "account") (some "Nowhere/Special") (some "5")).validate = .ok () := by
  intro accounts nowhere
  obtain ⟨hloads, _, hconfigs⟩ := usable_iff_valid
  obtain ⟨hloaded, hvalid, hzone, _⟩ := hconfigs accounts
  obtain ⟨_, hinvalid, _, hunsettled⟩ := hconfigs nowhere
  have hok : accounts.validate = .ok () := by decide
  obtain ⟨_, _, zone, hsettles⟩ := hvalid.1 hok
  have hlimit : toString accounts.maxOccurrences.toNat = "5" := by decide
  have hload := hloaded hok
  rw [hlimit] at hload
  have hname : accounts.zone.name = "Europe/Berlin" := by decide
  rw [hzone zone hsettles] at hname
  have hnone : ¬ ∃ zone, Zone.Settles nowhere.timezone zone := fun h =>
    absurd (hinvalid.2 ⟨by decide, by decide, h⟩) (by decide)
  exact ⟨hok, hload, ⟨zone, hsettles, hzone zone hsettles, hname⟩, hnone, (hunsettled hnone).2,
    hloads _ _ _⟩

end Config

end FeatureFlags
