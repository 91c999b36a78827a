import FeatureFlags.Proofs.Cron.Chronology
import FeatureFlags.Proofs.Time.Zone
import Mathlib.Data.List.Sort

namespace FeatureFlags.Cron

open Time

namespace Expression

variable {e : Expression} {zone : Zone} {after t u : Instant} {c d : ClockTime} {n : Nat}
  {before rest : List ClockTime}

/-- The instants that show the readings from `c` on that the fields hold, in the order of the
readings. -/
def byClock (e : Expression) (zone : Zone) (c : ClockTime) : List Instant :=
  (e.times.listed c).flatMap zone.instantsOf

theorem flatMap_eq_of_filter_eq {α β : Type} {f : α → List β} {l l' : List α}
    (h : l.filter (fun a => !(f a).isEmpty) = l'.filter (fun a => !(f a).isEmpty)) :
    l.flatMap f = l'.flatMap f := by
  have hfilter (l : List α) : l.flatMap f = (l.filter fun a => !(f a).isEmpty).flatMap f := by
    induction l with
    | nil => rfl
    | cons a l ih =>
      rw [List.flatMap_cons, List.filter_cons, ih]
      cases hf : f a with
      | nil => rfl
      | cons b bs => simp [hf]
  rw [hfilter l, h, ← hfilter l']

theorem filter_eq_of_sorted {l l' : List ClockTime} {p : ClockTime → Bool}
    (hl : l.Pairwise fun a b => a.seconds < b.seconds)
    (hl' : l'.Pairwise fun a b => a.seconds < b.seconds)
    (h : ∀ d, p d = true → (d ∈ l ↔ d ∈ l')) : l.filter p = l'.filter p := by
  have hantisymm : Std.Antisymm fun a b : ClockTime => a.seconds < b.seconds :=
    ⟨fun a b hab hba => absurd hab (not_lt.2 hba.le)⟩
  have hirrefl : Std.Irrefl fun a b : ClockTime => a.seconds < b.seconds :=
    ⟨fun a => lt_irrefl a.seconds⟩
  refine (hl.filter p).eq_of_mem_iff (hl'.filter p) fun d => ?_
  rw [List.mem_filter, List.mem_filter]
  exact ⟨fun hd => ⟨(h d hd.2).1 hd.1, hd.2⟩, fun hd => ⟨(h d hd.2).2 hd.1, hd.2⟩⟩

theorem mem_rest_iff {x : ClockTime} (hc : c.Valid)
    (hsplit : e.times.listed c = before ++ d :: rest) :
    x ∈ rest ↔ x ∈ e.times.listed c ∧ d.seconds < x.seconds := by
  have hsorted := Times.listed_sorted (t := e.times) hc
  rw [hsplit, List.pairwise_append, List.pairwise_cons] at hsorted
  obtain ⟨_, ⟨hrest, _⟩, hbefore⟩ := hsorted
  rw [hsplit, List.mem_append, List.mem_cons]
  constructor
  · intro hx
    exact ⟨.inr (.inr hx), hrest x hx⟩
  · rintro ⟨hx | rfl | hx, hlt⟩
    · exact absurd (hbefore x hx d (by simp)) (not_lt.2 hlt.le)
    · exact absurd hlt (lt_irrefl _)
    · exact hx

theorem seconds_clock_walkAfter :
    (walkAfter zone t).clock.seconds = zone.shown (t.seconds + 1) := by
  have hseconds : Instant.seconds ⟨t.nanos + 1000000000⟩ = t.seconds + 1 := by
    simp only [Instant.seconds]
    omega
  rw [walkAfter, Zone.seconds_clock, hseconds]

theorem clock_walkAfter_valid : (walkAfter zone t).clock.Valid := Zone.clock_valid _ _

theorem year_nonneg_of_le {c' : ClockTime} (hc : c.Valid) (hc' : c'.Valid)
    (hle : c.seconds ≤ c'.seconds) (hyear : 0 ≤ c.year) : 0 ≤ c'.year := by
  rw [← hc.ofSeconds_seconds, Instant.le_year_iff] at hyear
  rw [← hc'.ofSeconds_seconds, Instant.le_year_iff]
  exact hyear.trans hle

/-- After the last instant that shows a reading, the walk goes on with the readings after it. -/
theorem byClock_next (hz : zone.Steady) (hc : c.Valid)
    (hsplit : e.times.listed c = before ++ d :: rest) (ht : t ∈ zone.instantsOf d)
    (hlast : ∀ u ∈ zone.instantsOf d, u ≤ t) :
    e.byClock zone (walkAfter zone t).clock = rest.flatMap zone.instantsOf := by
  obtain ⟨hlt, hnext⟩ := hz.next_reading ht hlast
  rw [← seconds_clock_walkAfter] at hlt hnext
  have hd : d ∈ e.times.listed c := by simp [hsplit]
  obtain ⟨hyear, hdvalid, hcd, _, _⟩ := (Times.mem_listed hc).1 hd
  have hvalid : (walkAfter zone t).clock.Valid := clock_walkAfter_valid
  have hyear' := year_nonneg_of_le hc hvalid (hcd.trans hlt.le) hyear
  have hsorted := Times.listed_sorted (t := e.times) hc
  rw [hsplit] at hsorted
  apply flatMap_eq_of_filter_eq
  apply filter_eq_of_sorted (Times.listed_sorted hvalid)
    (List.pairwise_cons.1 (List.pairwise_append.1 hsorted).2.1).2
  intro x hx
  obtain ⟨u, hu⟩ := List.exists_mem_of_ne_nil (zone.instantsOf x) (by
    rintro he
    simp [he] at hx)
  have hiff := hnext u
  rw [(Zone.mem_instantsOf.1 hu).2] at hiff
  rw [mem_rest_iff hc hsplit, Times.mem_listed hvalid, Times.mem_listed hc, hiff]
  constructor
  · rintro ⟨_, hxvalid, hle, hx⟩
    exact ⟨⟨hyear, hxvalid, by omega, hx⟩, hle⟩
  · rintro ⟨⟨_, hxvalid, _, hx⟩, hle⟩
    exact ⟨hyear', hxvalid, hle, hx⟩

theorem nextInstants?_eq_none (h : e.nextInstants? zone c = none) : e.byClock zone c = [] := by
  rw [nextInstants?, Times.findSome?_eq_listed, List.findSome?_eq_none_iff] at h
  rw [byClock, List.flatMap_eq_nil_iff]
  intro d hd
  have hnone := h d hd
  split at hnone
  · next hnil => exact hnil
  · cases hnone

theorem nextInstants?_eq_some {later : Option Instant} (hz : zone.Steady) (hc : c.Valid)
    (h : e.nextInstants? zone c = some (t, later)) :
    e.byClock zone c = t :: (match later with
      | none => e.byClock zone (walkAfter zone t).clock
      | some u => u :: e.byClock zone (walkAfter zone u).clock) := by
  rw [nextInstants?, Times.findSome?_eq_listed] at h
  obtain ⟨before, d, rest, hsplit, hd, hbefore⟩ := List.findSome?_eq_some_iff.1 h
  have hskip : before.flatMap zone.instantsOf = [] := by
    rw [List.flatMap_eq_nil_iff]
    intro x hx
    have hnone := hbefore x hx
    split at hnone
    · next hnil => exact hnil
    · cases hnone
  have hsorted := zone.instantsOf_sorted d
  rw [byClock, hsplit, List.flatMap_append, hskip, List.nil_append, List.flatMap_cons]
  rcases hz.instantsOf_cases d with hnil | ⟨u, hone⟩ | ⟨u, v, htwo⟩
  · rw [hnil] at hd
    cases hd
  · rw [hone] at hd
    cases hd
    rw [byClock_next hz hc hsplit (t := t) (by simp [hone]) (by simp [hone]), hone]
    rfl
  · rw [htwo] at hd hsorted
    cases hd
    have hlt : t < v := by simpa using hsorted
    rw [htwo]
    simp only [List.head?_cons, List.cons_append, List.nil_append]
    rw [byClock_next hz hc hsplit (t := v) (by simp [htwo]) (by simp [htwo, hlt.le])]

/-- A walk fires at the instants that show what the fields hold, in the order of the clock. -/
theorem firingsFrom_eq_byClock (hz : zone.Steady) (hc : c.Valid) :
    e.firingsFrom zone (fun _ => true) n ⟨none, c⟩ = (e.byClock zone c).take n := by
  induction n using Nat.strong_induction_on generalizing c with
  | h n ih =>
    cases n with
    | zero => rfl
    | succ n =>
      have hgo (t : Instant) (m : Nat) (hm : m ≤ n) :
          e.firingsFrom zone (fun _ => true) m (walkAfter zone t) =
            (e.byClock zone (walkAfter zone t).clock).take m :=
        ih m (Nat.lt_succ_of_le hm) clock_walkAfter_valid
      rw [firingsFrom, step?]
      cases h : e.nextInstants? zone c with
      | none =>
        rw [nextInstants?_eq_none h]
        rfl
      | some next =>
        obtain ⟨t, later⟩ := next
        rw [nextInstants?_eq_some hz hc h]
        cases later with
        | none => simp only [Option.bind_eq_bind, Option.bind_some, if_true, List.take_succ_cons,
            hgo t n le_rfl]
        | some u =>
          simp only [Option.bind_eq_bind, Option.bind_some, if_true, List.take_succ_cons]
          cases n with
          | zero => rfl
          | succ n =>
            simp only [firingsFrom, step?, if_true, List.take_succ_cons, hgo u n (Nat.le_succ n)]

theorem firings_eq_byClock (hz : zone.Steady) :
    e.firings zone after n = if (after.add? 1000000000).isSome then
      (e.byClock zone (walkAfter zone after).clock).take n else [] := by
  have hwalk : e.firingsFrom zone (fun _ => true) n (walkAfter zone after) =
      (e.byClock zone (walkAfter zone after).clock).take n :=
    firingsFrom_eq_byClock hz clock_walkAfter_valid
  rw [firings, firingsWhile, hwalk]

/-- A second that the fields name by the zone's clock, where clocks read no less than a second past
`after`. -/
structure Ahead (e : Expression) (zone : Zone) (after t : Instant) : Prop where
  whole : t.Whole
  named : e.times.contains (zone.clock t) = true
  clock_le : (walkAfter zone after).clock.seconds ≤ (zone.clock t).seconds
  /-- In the last second of all no walk begins. -/
  begins : (after.add? 1000000000).isSome = true
  /-- Nor where clocks show a year before 0. -/
  year_nonneg : 0 ≤ (walkAfter zone after).clock.year

theorem mem_byClock_iff (hy : e.times.years.Within .year)
    (hbegins : (after.add? 1000000000).isSome = true) :
    t ∈ e.byClock zone (walkAfter zone after).clock ↔ e.Ahead zone after t := by
  have hvalid : (walkAfter zone after).clock.Valid := clock_walkAfter_valid
  rw [byClock, List.mem_flatMap]
  constructor
  · rintro ⟨d, hd, ht⟩
    obtain ⟨hyear, hdvalid, hle, hnamed, _⟩ := (Times.mem_listed hvalid).1 hd
    have hclock := Zone.clock_of_mem_instantsOf hdvalid ht
    rw [← hclock] at hle hnamed
    exact ⟨(Zone.mem_instantsOf.1 ht).1, hnamed, hle, hbegins, hyear⟩
  · intro h
    refine ⟨zone.clock t, (Times.mem_listed hvalid).2 ⟨h.year_nonneg, Zone.clock_valid zone t,
      h.clock_le, h.named, Times.year_le hy h.named⟩, ?_⟩
    rw [Zone.mem_instantsOf, Zone.seconds_clock]
    exact ⟨h.whole, rfl⟩

theorem seconds_clock_of_mem {t : Instant} (ht : t ∈ zone.instantsOf d) :
    (zone.clock t).seconds = d.seconds := by
  rw [Zone.seconds_clock]
  exact (Zone.mem_instantsOf.1 ht).2

/-- The order of the clock is the order of time just when clocks are not put back in between. -/
theorem byClock_sorted_iff (hc : c.Valid) :
    (e.byClock zone c).Pairwise (· < ·) ↔
      ∀ t ∈ e.byClock zone c, ∀ u ∈ e.byClock zone c, t < u →
        (zone.clock t).seconds ≤ (zone.clock u).seconds := by
  have hlisted := Times.listed_sorted (t := e.times) hc
  simp only [byClock, List.pairwise_flatMap, List.mem_flatMap]
  constructor
  · rintro ⟨_, hpairs⟩ t ⟨d, hd, ht⟩ u ⟨d', hd', hu⟩ htu
    rw [seconds_clock_of_mem ht, seconds_clock_of_mem hu]
    by_contra hlt
    obtain ⟨earlier, later, hsplit⟩ := List.append_of_mem hd
    rw [hsplit] at hpairs hlisted hd'
    obtain ⟨_, hlater, hearlier⟩ := List.pairwise_append.1 hpairs
    rcases List.mem_append.1 hd' with hin | hin
    · have hut := hearlier d' hin d (by simp) u hu t ht
      exact absurd htu (not_lt.2 hut.le)
    · rcases List.mem_cons.1 hin with rfl | hin
      · exact hlt le_rfl
      · exact hlt ((List.pairwise_cons.1 (List.pairwise_append.1 hlisted).2.1).1 d' hin).le
  · intro h
    refine ⟨fun d _ => zone.instantsOf_sorted d, hlisted.imp_of_mem ?_⟩
    intro d d' hd hd' hlt t ht u hu
    rcases lt_trichotomy t u with htu | rfl | hut
    · exact htu
    · rw [← seconds_clock_of_mem ht, seconds_clock_of_mem hu] at hlt
      exact absurd hlt (lt_irrefl _)
    · have hle := h u ⟨d', hd', hu⟩ t ⟨d, hd, ht⟩ hut
      rw [seconds_clock_of_mem ht, seconds_clock_of_mem hu] at hle
      omega

/-- Clocks show an earlier reading, or the same one earlier. -/
def ShownBefore (zone : Zone) (t u : Instant) : Prop :=
  (zone.clock t).seconds < (zone.clock u).seconds ∨
    (zone.clock t).seconds = (zone.clock u).seconds ∧ t < u

theorem byClock_shownBefore (hc : c.Valid) : (e.byClock zone c).Pairwise (ShownBefore zone) := by
  rw [byClock, List.pairwise_flatMap]
  constructor
  · intro d _
    apply (zone.instantsOf_sorted d).imp_of_mem
    intro t u ht hu hlt
    exact .inr ⟨by rw [seconds_clock_of_mem ht, seconds_clock_of_mem hu], hlt⟩
  · apply (Times.listed_sorted hc).imp
    intro d d' hlt t ht u hu
    rw [← seconds_clock_of_mem ht, ← seconds_clock_of_mem hu] at hlt
    exact .inl hlt

theorem ShownBefore.asymm (h : ShownBefore zone t u) : ¬ ShownBefore zone u t := by
  rintro (h' | ⟨h', hlt⟩) <;> rcases h with h | ⟨h, hlt'⟩
  · exact lt_asymm h h'
  · exact h'.ne h.symm
  · exact h.ne h'.symm
  · exact lt_asymm hlt hlt'

theorem mem_takeWhile_append_cons {α : Type} {keep : α → Bool} {a : α} {front back : List α}
    (ha : a ∉ front) : a ∈ (front ++ a :: back).takeWhile keep ↔
      keep a = true ∧ ∀ b ∈ front, keep b = true := by
  induction front with
  | nil => by_cases hk : keep a = true <;> simp [hk]
  | cons b front ih =>
    rw [List.mem_cons, not_or] at ha
    rw [List.cons_append, List.takeWhile_cons]
    split
    · next hk => simp only [List.mem_cons, ha.1, false_or, ih ha.2, forall_eq_or_imp, hk, true_and]
    · next hk => simp [hk]

/-- What is kept of the first entries in an order is kept with all that come before. -/
theorem mem_takeWhile_take_iff {α : Type} {R : α → α → Prop} {keep : α → Bool} {l : List α} {a : α}
    (hasymm : ∀ a b, R a b → ¬ R b a) (hl : l.Pairwise R) :
    a ∈ (l.take n).takeWhile keep ↔ a ∈ l ∧ keep a = true ∧
      (∀ b ∈ l, R b a → keep b = true) ∧ {b | b ∈ l ∧ R b a}.encard < n := by
  by_cases hmem : a ∈ l
  · obtain ⟨front, back, rfl⟩ := List.append_of_mem hmem
    obtain ⟨hfront, hback, hlt⟩ := List.pairwise_append.1 hl
    obtain ⟨hlater, _⟩ := List.pairwise_cons.1 hback
    have hirrefl (b : α) : ¬ R b b := fun h => hasymm b b h h
    have hbefore (b : α) : b ∈ front ++ a :: back ∧ R b a ↔ b ∈ front := by
      refine ⟨fun ⟨hb, hba⟩ => ?_, fun hb => ⟨List.mem_append_left _ hb, hlt b hb a (by simp)⟩⟩
      rcases List.mem_append.1 hb with hb | hb
      · exact hb
      · rcases List.mem_cons.1 hb with rfl | hb
        · exact absurd hba (hirrefl b)
        · exact absurd hba (hasymm a b (hlater b hb))
    have hnot : a ∉ front := fun ha => hirrefl a (hlt a ha a (by simp))
    have hnodup : front.Nodup := hfront.imp fun hbc => by
      rintro rfl
      exact hirrefl _ hbc
    have hcard : {b | b ∈ front ++ a :: back ∧ R b a}.encard = front.length := by
      simp only [hbefore]
      exact encard_of_nodup hnodup
    have hall : (∀ b ∈ front ++ a :: back, R b a → keep b = true) ↔ ∀ b ∈ front, keep b = true :=
      forall_congr' fun b => by rw [← hbefore b, and_imp]
    rw [hcard, hall, Nat.cast_lt, and_iff_right hmem]
    rcases Nat.lt_or_ge front.length n with hn | hn
    · obtain ⟨m, rfl⟩ := Nat.exists_eq_add_of_lt hn
      rw [List.take_append, List.take_of_length_le (by omega),
        show front.length + m + 1 - front.length = m + 1 by omega, List.take_succ_cons,
        mem_takeWhile_append_cons hnot, and_iff_left hn]
    · rw [List.take_append_of_le_length hn]
      exact ⟨fun h => absurd (List.mem_of_mem_take (List.takeWhile_subset _ h)) hnot,
        fun h => absurd h.2.2 (not_lt.2 hn)⟩
  · exact ⟨fun h => absurd (List.mem_of_mem_take (List.takeWhile_subset _ h)) hmem,
      fun h => absurd h.1 hmem⟩

/-- A walk that stops at the first firing it does not keep yields a second ahead by the clock just
when it keeps all that clocks show before and has room for them. -/
theorem mem_firingsWhile_iff {keep : Instant → Bool} (hy : e.times.years.Within .year)
    (hz : zone.Steady) :
    t ∈ e.firingsWhile zone after keep n ↔ e.Ahead zone after t ∧ keep t = true ∧
      (∀ u, e.Ahead zone after u → ShownBefore zone u t → keep u = true) ∧
        {u | e.Ahead zone after u ∧ ShownBefore zone u t}.encard < n := by
  rw [firingsWhile_eq_takeWhile, firings_eq_byClock hz]
  split
  · next hbegins =>
    rw [mem_takeWhile_take_iff (fun _ _ => ShownBefore.asymm)
      (byClock_shownBefore clock_walkAfter_valid)]
    simp only [mem_byClock_iff hy hbegins]
  · next hbegins =>
    refine ⟨fun h => absurd h List.not_mem_nil, fun h => absurd h.1.begins hbegins⟩

/-- Firings come in the order of the clock. They are also later than the instant they come after and
in the order of time just when all seconds that are ahead by the clock are later, and clocks are not
put back from one to another of them. -/
theorem firings_ordered_iff {text : String} (he : Expression.parse text = .ok e)
    (hz : zone.Steady) (after : Instant) :
    (∀ n, (e.firings zone after n).Pairwise (ShownBefore zone)) ∧
      ((∀ n, (∀ t ∈ e.firings zone after n, after < t) ∧
          (e.firings zone after n).Pairwise (· < ·)) ↔
        ∀ t, e.Ahead zone after t → after < t ∧ ∀ u, e.Ahead zone after u → t < u →
          (zone.clock t).seconds ≤ (zone.clock u).seconds) := by
  have hvalid : (walkAfter zone after).clock.Valid := clock_walkAfter_valid
  have hfirings (n : Nat) : e.firings zone after n = _ := firings_eq_byClock hz
  by_cases hbegins : (after.add? 1000000000).isSome = true
  · have hmem {t : Instant} :
        t ∈ e.byClock zone (walkAfter zone after).clock ↔ e.Ahead zone after t :=
      mem_byClock_iff (Expression.parse_years he) hbegins
    simp only [hbegins, if_true] at hfirings
    refine ⟨fun n => ?_, fun h t ht => ?_, fun h n => ?_⟩
    · rw [hfirings]
      exact (byClock_shownBefore hvalid).sublist (List.take_sublist _ _)
    · have hall := h (e.byClock zone (walkAfter zone after).clock).length
      rw [hfirings, List.take_length, byClock_sorted_iff hvalid] at hall
      exact ⟨hall.1 t (hmem.2 ht), fun u hu htu => hall.2 t (hmem.2 ht) u (hmem.2 hu) htu⟩
    · rw [hfirings]
      constructor
      · intro t ht
        exact (h t (hmem.1 (List.mem_of_mem_take ht))).1
      · apply List.Pairwise.sublist (List.take_sublist _ _)
        rw [byClock_sorted_iff hvalid]
        intro t ht u hu htu
        exact (h t (hmem.1 ht)).2 u (hmem.1 hu) htu
  · simp only [hbegins] at hfirings
    refine ⟨fun n => ?_, fun _ t ht => absurd ht.begins hbegins, fun _ n => ?_⟩
    · rw [hfirings]
      exact .nil
    · rw [hfirings]
      exact ⟨fun t ht => absurd ht List.not_mem_nil, .nil⟩

/-- Clocks there are put back from three o'clock to two on the last Sunday of October. -/
def berlin : Zone := Zone.resolve (some "Europe/Berlin") .utc

theorem parse_berlin : Zone.parse "Europe/Berlin" = .ok berlin := by
  have hok : (Zone.parse "Europe/Berlin").isOk = true := by decide
  rw [berlin, Zone.resolve, Option.map_some]
  cases h : Zone.parse "Europe/Berlin" with
  | ok zone => rfl
  | error e =>
    rw [h] at hok
    cases hok

theorem shown_berlin (second : Int) :
    second + 3208 ≤ berlin.shown second ∧ berlin.shown second ≤ second + 10800 := by
  have hmem := Offsets.offsetFrom_mem berlin.offsets.initial berlin.offsets.changes second
  have hall : ∀ offset ∈ berlin.offsets.initial :: berlin.offsets.changes.map Prod.snd,
      3208 ≤ offset ∧ offset ≤ 10800 := by decide +kernel
  have := hall _ hmem
  simp only [Zone.shown, Offsets.shownFrom]
  omega

def mornings : Expression :=
  ⟨"0 9 * * *", ⟨.just 0, .just 0, .just 9, .every .day, .every .month, .every .weekday,
    .every .year⟩⟩

theorem seconds_of_mornings (h : mornings.times.contains c = true) :
    c.seconds = c.date.dayNumber * 86400 + 32400 := by
  simp only [Times.contains, mornings, Bool.and_eq_true, Field.contains_just_iff] at h
  obtain ⟨⟨⟨_, hhour⟩, hminute⟩, hsecond⟩ := h
  simp only [ClockTime.seconds, hhour, hminute, hsecond]
  omega

theorem firings_mornings_ordered :
    Expression.parse "0 9 * * *" = .ok mornings ∧ Zone.parse "Europe/Berlin" = .ok berlin ∧
      berlin.Steady ∧ ∀ n, (∀ t ∈ mornings.firings berlin (.ofSeconds 1729989000) n,
          Instant.ofSeconds 1729989000 < t) ∧
        (mornings.firings berlin (.ofSeconds 1729989000) n).Pairwise (· < ·) := by
  have hparse : Expression.parse "0 9 * * *" = .ok mornings := by decide
  have hsteady : berlin.Steady := Zone.steady_of_parse parse_berlin
  refine ⟨hparse, parse_berlin, hsteady, (firings_ordered_iff hparse hsteady _).2.2 fun t ht => ?_⟩
  have hfrom := ht.clock_le
  have htime := seconds_of_mornings ht.named
  have hshown := shown_berlin t.seconds
  have hstart := shown_berlin (1729989000 + 1)
  rw [seconds_clock_walkAfter, Instant.seconds_ofSeconds] at hfrom
  rw [Zone.seconds_clock] at hfrom htime ⊢
  constructor
  · rw [Instant.whole_iff.1 ht.whole, Instant.ofSeconds_lt_iff]
    omega
  · intro u hu htu
    have htime' := seconds_of_mornings hu.named
    have hshown' := shown_berlin u.seconds
    have hle := Instant.seconds_mono htu.le
    rw [Zone.seconds_clock] at htime' ⊢
    omega

def thirds : Expression :=
  ⟨"*/20 * * * *", ⟨.just 0, ⟨[⟨0, 59, 20⟩]⟩, .every .hour, .every .day, .every .month,
    .every .weekday, .every .year⟩⟩

/-- From ten past two on in the second pass of the hour, twenty past two in the first pass comes
first, then the same in the second, then twenty to three in the first. -/
theorem firings_thirds_back :
    Expression.parse "*/20 * * * *" = .ok thirds ∧ Zone.parse "Europe/Berlin" = .ok berlin ∧
      Instant.ofYear 0 ≤ .ofSeconds 1729991400 ∧
      (∃ t ∈ thirds.firings berlin (.ofSeconds 1729991400) 3,
        ¬ Instant.ofSeconds 1729991400 < t) ∧
      ¬ (thirds.firings berlin (.ofSeconds 1729991400) 3).Pairwise (· < ·) := by
  refine ⟨by decide, parse_berlin, by decide, ?_⟩
  have hfirings : thirds.firings berlin (.ofSeconds 1729991400) 3 =
      [.ofSeconds 1729988400, .ofSeconds 1729992000, .ofSeconds 1729989600] := by
    decide +kernel
  rw [hfirings]
  decide

end Expression

end FeatureFlags.Cron
