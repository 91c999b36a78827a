import FeatureFlags.Proofs.Timeline.Ends
import Mathlib.Data.List.Flatten

namespace FeatureFlags

open Time

namespace Recurrence

variable {r : Recurrence} {time p : Instant} {m n : Nat}

def Nested (r : Recurrence) : Prop := ∀ after, (r.firingsAfter after).Nested

theorem Nested.openAt?_of_le (h : r.Nested) (hmn : m ≤ n) (hp : r.openAt? time m = some p) :
    r.openAt? time n = some p := by
  rw [openAt?_eq_filter, Option.filter_eq_some_iff] at *
  exact ⟨(h (r.horizon time)).latest?_of_le hmn hp.1, hp.2⟩

end Recurrence

namespace Schedule

variable {s : Schedule} {reading : Reading} {created time : Instant} {r : Recurrence} {m n : Nat}

theorem nested_of_recurrence? (hreading : reading.firings = Cron.Expression.firingsWhile)
    (hr : s.recurrence? reading created = some r) : r.Nested := by
  obtain ⟨e, _, _, _, rfl⟩ := recurrence?_eq_some_iff.1 hr
  intro after
  simp only [hreading]
  exact Cron.Expression.firingsWhile_nested

theorem isActive_of_limit_le {zone : Zone} (hmn : m ≤ n)
    (h : s.isActive { zone, limit := m } created time = true) :
    s.isActive { zone, limit := n } created time = true := by
  cases hs : s.isRecurring with
  | false =>
    simp only [isActive, hs, Bool.false_eq_true, if_false] at h ⊢
    exact h
  | true =>
    cases hr : s.recurrence? { zone, limit := m } created with
    | none => simp [isActive, hs, hr] at h
    | some r =>
      have hr' : s.recurrence? { zone, limit := n } created = some r := hr
      obtain ⟨hstart, hstop, hopen⟩ := (isActive_of_recurrence? hr).1 h
      obtain ⟨p, hp⟩ := Option.isSome_iff_exists.1 hopen
      have hp' := (nested_of_recurrence? rfl hr).openAt?_of_le hmn hp
      exact (isActive_of_recurrence? hr').2 ⟨hstart, hstop, by rw [hp']; rfl⟩

end Schedule

namespace Timeline

variable {a b : List (Event Instant)} {w : Window} {s : Schedule} {r : Recurrence}
  {start stop : Instant} {m n : Nat}

theorem sort_sublist (h : a.Sublist b) : (sort a).Sublist (sort b) := by
  have htrans : IsTrans (Event Instant) fun a b => a.time ≤ b.time := ⟨fun _ _ _ => le_trans⟩
  induction h with
  | slnil => exact List.Sublist.refl _
  | cons e _ ih =>
    rw [sort_cons]
    exact ih.trans (List.sublist_orderedInsert e _)
  | @cons_cons a b e _ ih =>
    rw [sort_cons, sort_cons]
    exact List.Sublist.orderedInsert_sublist e ih (sort_sorted b)

namespace Window

def limitedTo (w : Window) (limit : Nat) : Window :=
  { w with reading := { w.reading with limit } }

theorem carriedOver_sublist (hr : r.Nested) (hmn : m ≤ n) (lo hi : Instant) :
    ((w.limitedTo m).carriedOver r lo hi).Sublist ((w.limitedTo n).carriedOver r lo hi) := by
  have heq (k : Nat) : (w.limitedTo k).carriedOver r lo hi =
      if lo = w.start then (r.openAt? lo k).toList.flatMap (w.closing r hi) else [] := rfl
  rw [heq, heq]
  by_cases hlo : lo = w.start
  · rw [if_pos hlo, if_pos hlo]
    cases hp : r.openAt? lo m with
    | none => exact List.nil_sublist _
    | some p => rw [hr.openAt?_of_le hmn hp]
  · rw [if_neg hlo, if_neg hlo]

theorem told_sublist (hr : r.Nested) (hmn : m ≤ n) :
    ((w.limitedTo m).told s r).Sublist ((w.limitedTo n).told s r) := by
  have htake : (w.limitedTo m).told s r = ((w.limitedTo n).told s r).take m :=
    hr _ _ hmn
  rw [htake]
  exact List.take_sublist _ _

theorem cutOff_sublist (hr : r.Nested) (hmn : m ≤ n) (hi : Instant) :
    ((w.limitedTo m).cutOff r hi).Sublist ((w.limitedTo n).cutOff r hi) := by
  cases hp : r.openAt? ⟨hi.nanos - 1⟩ m with
  | none => simp [cutOff, limitedTo, hp]
  | some p =>
    simp only [cutOff, limitedTo, hp, hr.openAt?_of_le hmn hp]
    exact List.Sublist.refl _

theorem expand_sublist (hw : w.reading.firings = Cron.Expression.firingsWhile) (hmn : m ≤ n) :
    ((w.limitedTo m).expand s).Sublist ((w.limitedTo n).expand s) := by
  cases hs : s.isRecurring with
  | false =>
    simp only [expand, hs]
    exact List.Sublist.refl _
  | true =>
    cases hr : s.recurrence? w.reading w.created with
    | none =>
      rw [expand_of_malformed (w := w.limitedTo m) hs hr]
      exact List.nil_sublist _
    | some r =>
      have hnested := Schedule.nested_of_recurrence? hw hr
      rw [expand_eq (w := w.limitedTo m) hr, expand_eq (w := w.limitedTo n) hr]
      split
      · exact List.nil_sublist _
      · next hlt =>
        have hlt' : ¬ (w.limitedTo n).hi s ≤ (w.limitedTo n).lo r := hlt
        rw [if_neg hlt']
        exact ((carriedOver_sublist hnested hmn _ _).append
          ((told_sublist hnested hmn).flatMap _)).append (cutOff_sublist hnested hmn _)

end Window

theorem inner_sublist {reading : Reading} {f : Feature}
    (hreading : reading.firings = Cron.Expression.firingsWhile) (hmn : m ≤ n) :
    (inner { reading with limit := m } f start stop).Sublist
      (inner { reading with limit := n } f start stop) := by
  simp only [inner]
  split
  · apply sort_sublist
    apply List.Sublist.flatMap_right
    intro s _
    exact Window.expand_sublist (w := window reading f start stop) hreading hmn
  · exact List.Sublist.refl _

/-- Of two settings that differ in the limit on firings, the one with the higher limit has all
schedules active that the other has, and its timelines tell what those of the other tell beside the
events for the ends, in the same order. -/
theorem build_sublist_of_limit_le {config config' : Config} (f : Feature)
    (timezone : Option String) (hzone : config.timezone = config'.timezone)
    (hlimit : config.maxOccurrences ≤ config'.maxOccurrences) (hle : start ≤ stop) :
    (∀ (s : Schedule) (zone : Zone) (created time : Instant),
      s.isActive { zone, limit := config.maxOccurrences.toNat } created time = true →
      s.isActive { zone, limit := config'.maxOccurrences.toNat } created time = true) ∧
    ∃ before after before' after',
      build config f start stop timezone =
        .ok (before ++ ⟨start, f.stateAt (config.reading timezone) start⟩ :: after ++
          [⟨stop, f.stateAt (config.reading timezone) stop⟩]) ∧
      build config' f start stop timezone =
        .ok (before' ++ ⟨start, f.stateAt (config'.reading timezone) start⟩ :: after' ++
          [⟨stop, f.stateAt (config'.reading timezone) stop⟩]) ∧
      (∀ e ∈ before ++ before', e.time < start) ∧
      (before ++ after).Sublist (before' ++ after') := by
  have hmn : config.maxOccurrences.toNat ≤ config'.maxOccurrences.toNat :=
    UInt64.le_iff_toNat_le.1 hlimit
  refine ⟨fun _ _ _ _ => Schedule.isActive_of_limit_le hmn, ?_⟩
  obtain ⟨before, after, hbuild, hinner, hbefore⟩ :=
    build_eq_inner config f timezone hle
  obtain ⟨before', after', hbuild', hinner', hbefore'⟩ :=
    build_eq_inner config' f timezone hle
  refine ⟨before, after, before', after', hbuild, hbuild', ?_, ?_⟩
  · intro e he
    exact (List.mem_append.1 he).elim (hbefore e) (hbefore' e)
  · have hsame : config.reading timezone =
        { config'.reading timezone with limit := config.maxOccurrences.toNat } := by
      simp only [Config.reading, Config.zone, hzone]
    rw [hinner, hinner', hsame]
    exact inner_sublist rfl hmn

def oneFiring : Config := ⟨"user_id", "UTC", 1⟩

theorem build_halfHours_sublist :
    oneFiring.timezone = Config.default.timezone ∧
      oneFiring.maxOccurrences ≤ Config.default.maxOccurrences ∧
      Instant.ofSeconds 1729991400 ≤ .ofSeconds 1729998000 ∧
      ∃ before after before' after',
        build oneFiring halfHours (.ofSeconds 1729991400) (.ofSeconds 1729998000) none =
          .ok (before ++ ⟨.ofSeconds 1729991400, false⟩ :: after ++
            [⟨.ofSeconds 1729998000, false⟩]) ∧
        build .default halfHours (.ofSeconds 1729991400) (.ofSeconds 1729998000) none =
          .ok (before' ++ ⟨.ofSeconds 1729991400, false⟩ :: after' ++
            [⟨.ofSeconds 1729998000, false⟩]) ∧
        (before ++ after).Sublist (before' ++ after') := by
  have hzone : oneFiring.timezone = Config.default.timezone := rfl
  have hlimit : oneFiring.maxOccurrences ≤ Config.default.maxOccurrences := by decide
  have hle : Instant.ofSeconds 1729991400 ≤ .ofSeconds 1729998000 := by decide
  obtain ⟨_, before, after, before', after', hbuild, hbuild', _, hsub⟩ :=
    build_sublist_of_limit_le halfHours none hzone hlimit hle
  have hstart (config : Config) (h : config = oneFiring ∨ config = .default) :
      halfHours.stateAt (config.reading none) (.ofSeconds 1729991400) = false ∧
        halfHours.stateAt (config.reading none) (.ofSeconds 1729998000) = false := by
    rcases h with rfl | rfl
    · decide +kernel
    · decide +kernel
  rw [(hstart oneFiring (.inl rfl)).1, (hstart oneFiring (.inl rfl)).2] at hbuild
  rw [(hstart .default (.inr rfl)).1, (hstart .default (.inr rfl)).2] at hbuild'
  exact ⟨hzone, hlimit, hle, before, after, before', after', hbuild, hbuild', hsub⟩

end Timeline

end FeatureFlags
