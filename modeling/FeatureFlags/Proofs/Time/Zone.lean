import FeatureFlags.Proofs.Time.Order
import FeatureFlags.Time.Zone

namespace FeatureFlags.Time

namespace Offsets

variable {offsets : Offsets} {offset change next second shown : Int}
  {changes rest : List (Int × Int)} {a b c s : Int}

/-- The readings around a change, from the lower to the higher offset, come before those around the
next. -/
def SteadyFrom (offset : Int) : List (Int × Int) → Prop
  | [] => True
  | [_] => True
  | (change, next) :: (change', next') :: rest =>
    change < change' ∧ change + max offset next ≤ change' + min next next' ∧
      SteadyFrom next ((change', next') :: rest)

/-- What clocks show at a second of universal time. -/
def shownFrom (offset : Int) (changes : List (Int × Int)) (second : Int) : Int :=
  second + offsetFrom offset changes second

instance decidableSteadyFrom : (offset : Int) → (changes : List (Int × Int)) →
    Decidable (SteadyFrom offset changes)
  | _, [] => .isTrue trivial
  | _, [_] => .isTrue trivial
  | offset, (change, next) :: (change', next') :: rest =>
    have := decidableSteadyFrom next ((change', next') :: rest)
    inferInstanceAs (Decidable (change < change' ∧
      change + max offset next ≤ change' + min next next' ∧
        SteadyFrom next ((change', next') :: rest)))

theorem SteadyFrom.tail (h : SteadyFrom offset ((change, next) :: rest)) :
    SteadyFrom next rest := by
  cases rest with
  | nil => trivial
  | cons => exact h.2.2

theorem offsetFrom_mem (offset : Int) (changes : List (Int × Int)) (second : Int) :
    offsetFrom offset changes second ∈ offset :: changes.map Prod.snd := by
  induction changes generalizing offset with
  | nil => exact List.mem_cons_self
  | cons head rest ih =>
    obtain ⟨change, next⟩ := head
    rw [offsetFrom]
    split
    · exact List.mem_cons_self
    · exact List.mem_cons_of_mem _ (ih next)

theorem shownFrom_of_lt (h : second < change) :
    shownFrom offset ((change, next) :: rest) second = second + offset := by
  rw [shownFrom, offsetFrom, if_pos h]

theorem shownFrom_of_le (h : change ≤ second) :
    shownFrom offset ((change, next) :: rest) second = shownFrom next rest second := by
  rw [shownFrom, offsetFrom, if_neg (not_lt.2 h), shownFrom]

theorem SteadyFrom.shownFrom_change (h : SteadyFrom offset ((change, next) :: rest)) :
    shownFrom next rest change = change + next := by
  cases rest with
  | nil => rfl
  | cons => exact shownFrom_of_lt h.1

/-- Until clocks have passed the readings around a change, its offset stays. -/
theorem SteadyFrom.shownFrom_early (h : SteadyFrom offset ((change, next) :: rest))
    (hearly : second + next < change + max offset next) :
    shownFrom next rest second = second + next := by
  cases rest with
  | nil => rfl
  | cons head =>
    obtain ⟨change', next'⟩ := head
    obtain ⟨_, hapart, _⟩ := h
    exact shownFrom_of_lt (by omega)

theorem SteadyFrom.le_shownFrom (h : SteadyFrom offset ((change, next) :: rest))
    (hle : change ≤ second) :
    change + next ≤ shownFrom next rest second ∧
      (shownFrom next rest second < change + max offset next →
        shownFrom next rest second = second + next) := by
  induction rest generalizing offset change next with
  | nil => exact ⟨by simp only [shownFrom, offsetFrom]; omega, fun _ => rfl⟩
  | cons head rest ih =>
    obtain ⟨change', next'⟩ := head
    obtain ⟨_, hapart, hrest⟩ := h
    rcases lt_or_ge second change' with hlt | hge
    · rw [shownFrom_of_lt hlt]
      exact ⟨by omega, fun _ => rfl⟩
    · rw [shownFrom_of_le hge]
      have hpast := (ih hrest hge).1
      exact ⟨by omega, fun hearly => by omega⟩

theorem SteadyFrom.not_thrice (h : SteadyFrom offset changes) (hab : a < b) (hbc : b < c)
    (heq : shownFrom offset changes a = shownFrom offset changes b) :
    shownFrom offset changes b ≠ shownFrom offset changes c := by
  induction changes generalizing offset with
  | nil => simp only [shownFrom, offsetFrom] at heq; omega
  | cons head rest ih =>
    obtain ⟨change, next⟩ := head
    intro heq'
    rcases lt_or_ge a change with ha | ha
    · rcases lt_or_ge b change with hb | hb
      · rw [shownFrom_of_lt ha, shownFrom_of_lt hb] at heq
        omega
      · have hb' := h.le_shownFrom hb
        have hc' := h.le_shownFrom (hb.trans hbc.le)
        rw [shownFrom_of_lt ha, shownFrom_of_le hb] at heq
        rw [shownFrom_of_le hb, shownFrom_of_le (hb.trans hbc.le)] at heq'
        have hb'' := hb'.2 (by omega)
        have hc'' := hc'.2 (by omega)
        omega
    · rw [shownFrom_of_le ha, shownFrom_of_le (ha.trans hab.le)] at heq
      rw [shownFrom_of_le (ha.trans hab.le), shownFrom_of_le (by omega)] at heq'
      exact ih h.tail heq heq'

/-- The second after the last that shows a reading shows the next reading that there is. -/
theorem SteadyFrom.shownFrom_succ (h : SteadyFrom offset changes)
    (hlast : ∀ u, b < u → shownFrom offset changes u ≠ shownFrom offset changes b) :
    shownFrom offset changes b < shownFrom offset changes (b + 1) ∧
      ∀ s, shownFrom offset changes b < shownFrom offset changes s →
        shownFrom offset changes (b + 1) ≤ shownFrom offset changes s := by
  induction changes generalizing offset with
  | nil =>
    simp only [shownFrom, offsetFrom]
    exact ⟨by omega, fun s hs => by omega⟩
  | cons head rest ih =>
    obtain ⟨change, next⟩ := head
    rcases lt_trichotomy (b + 1) change with hb | hb | hb
    · rw [shownFrom_of_lt (by omega), shownFrom_of_lt hb]
      refine ⟨by omega, fun s hs => by omega⟩
    · have hbefore : shownFrom offset ((change, next) :: rest) b = b + offset :=
        shownFrom_of_lt (by omega)
      have hchange := h.shownFrom_change
      rw [hbefore, hb, shownFrom_of_le le_rfl, hchange]
      -- an offset that falls here would let clocks show the reading once more
      have hgrows : offset ≤ next := by
        by_contra hfalls
        have hearly : shownFrom next rest (b + offset - next) = b + offset - next + next :=
          h.shownFrom_early (by omega)
        apply hlast (b + offset - next) (by omega)
        rw [hbefore, shownFrom_of_le (by omega), hearly]
        omega
      refine ⟨by omega, fun s hs => ?_⟩
      rcases lt_or_ge s change with hs' | hs'
      · rw [shownFrom_of_lt hs'] at hs
        omega
      · rw [shownFrom_of_le hs']
        exact (h.le_shownFrom hs').1
    · have hb' : change ≤ b := by omega
      rw [shownFrom_of_le hb', shownFrom_of_le (hb'.trans (by omega))]
      have hrest := ih h.tail fun u hu => by
        have := hlast u hu
        rwa [shownFrom_of_le hb', shownFrom_of_le (hb'.trans hu.le)] at this
      refine ⟨hrest.1, fun s hs => ?_⟩
      rcases lt_or_ge s change with hs' | hs'
      · rw [shownFrom_of_lt hs'] at hs ⊢
        -- clocks have not passed the readings around this change yet
        have hsame := (h.le_shownFrom hb').2 (by omega)
        rw [h.shownFrom_early (by omega)]
        omega
      · rw [shownFrom_of_le hs'] at hs ⊢
        exact hrest.2 s hs

theorem showingFrom_sorted (offset : Int) (changes : List (Int × Int)) (shown : Int) :
    (showingFrom offset changes shown).Pairwise (· < ·) := by
  induction changes generalizing offset with
  | nil => exact List.pairwise_singleton _ _
  | cons head rest ih =>
    obtain ⟨change, next⟩ := head
    rw [showingFrom, List.pairwise_append]
    refine ⟨?_, (ih next).filter _, ?_⟩
    · split
      · exact List.pairwise_singleton _ _
      · exact .nil
    · intro a ha b hb
      have hchange := of_decide_eq_true (List.mem_filter.1 hb).2
      rw [List.mem_ite_nil_right, List.mem_singleton] at ha
      omega

end Offsets

namespace ZoneTable

variable {row : Row} {changes : List (Nat × Nat)} {offset : Int}

theorem mem_turns {one other : Nat} {lengths : List Nat} {change : Nat × Nat}
    (h : change ∈ turns one other lengths) : change.1 ∈ lengths := by
  induction lengths generalizing one other with
  | nil => cases h
  | cons length rest ih =>
    rcases List.mem_cons.1 h with rfl | h
    · exact List.mem_cons_self
    · exact List.mem_cons_of_mem _ (ih h)

/-- No change comes within two days of the one before. -/
def Stretch.Spaced : Stretch → Prop
  | singly packed => ∀ change ∈ (singly packed).changes, 172800 ≤ change.1
  | alternating .. => True

instance : (stretch : Stretch) → Decidable stretch.Spaced
  | .singly packed => inferInstanceAs (Decidable (∀ change ∈ (Stretch.singly packed).changes, _))
  | .alternating .. => .isTrue trivial

theorem Stretch.Spaced.le_of_mem {stretch : Stretch} (h : stretch.Spaced) {change : Nat × Nat}
    (hmem : change ∈ stretch.changes) : 172800 ≤ change.1 := by
  cases stretch with
  | singly packed => exact h change hmem
  | alternating one other seasons start stop =>
    exact seasons.spaced _ (List.mem_of_mem_drop (List.mem_of_mem_take (mem_turns hmem)))

namespace Row

def Spaced (row : Row) : Prop :=
  (∀ offset ∈ row.offsets, offset.natAbs < 86400) ∧ ∀ stretch ∈ row.stretches, stretch.Spaced

instance (row : Row) : Decidable row.Spaced := inferInstanceAs (Decidable (_ ∧ _))

namespace Spaced

theorem natAbs_getD (h : row.Spaced) (place : Nat) :
    (row.offsets.getD place 0).natAbs < 86400 := by
  rw [List.getD_eq_getElem?_getD]
  cases hget : row.offsets[place]? with
  | none => decide
  | some offset => exact h.1 offset (List.mem_of_getElem? hget)

theorem steadyFrom (h : row.Spaced) (hchanges : ∀ change ∈ changes, 172800 ≤ change.1)
    (hoffset : offset.natAbs < 86400) (time : Nat) :
    Offsets.SteadyFrom offset (row.changesFrom time changes) := by
  induction changes generalizing offset time with
  | nil => trivial
  | cons change rest ih =>
    have hrest := ih (fun c hc => hchanges c (List.mem_cons_of_mem _ hc)) (h.natAbs_getD change.2)
      (time + change.1)
    cases rest with
    | nil => trivial
    | cons change' rest =>
      have hgap := hchanges change' (by simp)
      have hnext := h.natAbs_getD change.2
      have hnext' := h.natAbs_getD change'.2
      simp only [changesFrom] at hrest ⊢
      exact ⟨by omega, by omega, hrest⟩

theorem steady (h : row.Spaced) :
    Offsets.SteadyFrom row.history.initial row.history.changes := by
  have hfirst : row.history.initial = row.offsets.getD 0 0 := by
    rw [history]
    cases row.offsets <;> rfl
  rw [hfirst]
  apply h.steadyFrom _ (h.natAbs_getD 0)
  intro change hmem
  obtain ⟨stretch, hstretch, hmem⟩ := List.mem_flatMap.1 hmem
  exact (h.2 stretch hstretch).le_of_mem hmem

end Spaced

end Row

theorem rows_spaced : ∀ row ∈ rows, row.Spaced := by decide +kernel

end ZoneTable

namespace Zone

variable {zone : Zone} {c c' : ClockTime} {t u : Instant} {n : Int}

/-- Each change of the offset is over by the clock before the next. -/
def Steady (zone : Zone) : Prop :=
  Offsets.SteadyFrom zone.offsets.initial zone.offsets.changes

theorem steady_of_find? {name : String} (h : find? name = some zone) : zone.Steady := by
  obtain ⟨row, hrow, rfl⟩ := Option.map_eq_some_iff.1 h
  exact (ZoneTable.rows_spaced row (List.mem_of_find?_eq_some hrow)).steady

theorem steady_of_parse {name : String} (h : parse name = .ok zone) : zone.Steady := by
  simp only [parse] at h
  split at h
  · cases h
  · split at h
    · next hfind =>
      cases h
      exact steady_of_find? hfind
    · cases h

/-- The reading of clocks at a second of universal time, in seconds. -/
def shown (zone : Zone) (second : Int) : Int :=
  Offsets.shownFrom zone.offsets.initial zone.offsets.changes second

@[simp] theorem seconds_clock (zone : Zone) (t : Instant) :
    (zone.clock t).seconds = zone.shown t.seconds :=
  ClockTime.seconds_ofSeconds _

theorem clock_valid (zone : Zone) (t : Instant) : (zone.clock t).Valid :=
  ClockTime.ofSeconds_valid _

theorem mem_instantsOf : t ∈ zone.instantsOf c ↔ t.Whole ∧ zone.shown t.seconds = c.seconds := by
  simp only [instantsOf, List.mem_map, Offsets.mem_showing]
  constructor
  · rintro ⟨n, hn, rfl⟩
    exact ⟨Instant.whole_ofSeconds n, by rw [Instant.seconds_ofSeconds]; exact hn⟩
  · rintro ⟨hwhole, hshown⟩
    exact ⟨t.seconds, hshown, (Instant.whole_iff.1 hwhole).symm⟩

theorem clock_of_mem_instantsOf (hc : c.Valid) (ht : t ∈ zone.instantsOf c) : zone.clock t = c :=
  (clock_valid zone t).ext_seconds hc (by rw [seconds_clock]; exact (mem_instantsOf.1 ht).2)

theorem instantsOf_sorted (zone : Zone) (c : ClockTime) :
    (zone.instantsOf c).Pairwise (· < ·) := by
  rw [instantsOf, List.pairwise_map]
  exact (Offsets.showingFrom_sorted _ _ _).imp Instant.ofSeconds_lt_iff.2

theorem Steady.instantsOf_cases (h : zone.Steady) (c : ClockTime) :
    zone.instantsOf c = [] ∨ (∃ t, zone.instantsOf c = [t]) ∨
      ∃ t u, zone.instantsOf c = [t, u] := by
  have hsorted := Offsets.showingFrom_sorted zone.offsets.initial zone.offsets.changes c.seconds
  have hshown {n : Int} : n ∈ zone.offsets.showing c.seconds → zone.shown n = c.seconds :=
    Offsets.mem_showing.1
  simp only [instantsOf]
  rw [Offsets.showing] at hshown ⊢
  match hl : Offsets.showingFrom zone.offsets.initial zone.offsets.changes c.seconds with
  | [] => exact .inl rfl
  | [n] => exact .inr (.inl ⟨_, rfl⟩)
  | [m, n] => exact .inr (.inr ⟨_, _, rfl⟩)
  | l :: m :: n :: rest =>
    rw [hl] at hsorted hshown
    simp only [List.pairwise_cons, List.mem_cons] at hsorted
    have hl := hshown (n := l) (by simp)
    have hm := hshown (n := m) (by simp)
    have hn := hshown (n := n) (by simp)
    exact absurd (hm.trans hn.symm) (Offsets.SteadyFrom.not_thrice h (hsorted.1 m (.inl rfl))
      (hsorted.2.1 n (.inl rfl)) (hl.trans hm.symm))

/-- From the last instant that shows a reading clocks go on to those that they show later. -/
theorem Steady.next_reading (h : zone.Steady) (ht : t ∈ zone.instantsOf c)
    (hlast : ∀ u ∈ zone.instantsOf c, u ≤ t) :
    c.seconds < zone.shown (t.seconds + 1) ∧ ∀ u : Instant,
      c.seconds < zone.shown u.seconds ↔ zone.shown (t.seconds + 1) ≤ zone.shown u.seconds := by
  obtain ⟨hwhole, hc⟩ := mem_instantsOf.1 ht
  have hsucc := Offsets.SteadyFrom.shownFrom_succ (b := t.seconds) h fun n hn hsame => by
    have hmem : Instant.ofSeconds n ∈ zone.instantsOf c := by
      rw [mem_instantsOf, Instant.seconds_ofSeconds]
      exact ⟨Instant.whole_ofSeconds n, hsame.trans hc⟩
    have hle := hlast _ hmem
    rw [← not_lt, Instant.lt_ofSeconds_iff] at hle
    exact hle hn
  rw [← hc]
  exact ⟨hsucc.1, fun u => ⟨hsucc.2 u.seconds, fun hle => lt_of_lt_of_le hsucc.1 hle⟩⟩

end Zone

end FeatureFlags.Time
