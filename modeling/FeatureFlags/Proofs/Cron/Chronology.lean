import FeatureFlags.Cron.Firing
import FeatureFlags.Proofs.Cron.Range
import FeatureFlags.Proofs.Cron.Search
import FeatureFlags.Proofs.Time.Order
import Mathlib.Data.Set.Card
import Mathlib.Order.Bounds.Basic

namespace FeatureFlags.Cron

open Time

theorem encard_of_nodup {α : Type} {l : List α} (h : l.Nodup) : {a | a ∈ l}.encard = l.length := by
  classical
  rw [← List.coe_toFinset, Set.encard_coe_eq_coe_finsetCard, List.toFinset_card_of_nodup h]

/-- `l` holds the first members of `S`, in order, and no more than `n`. -/
structure FirstOf (n : Nat) (S : Set Instant) (l : List Instant) : Prop where
  sorted : l.Pairwise (· < ·)
  mem : ∀ t ∈ l, t ∈ S
  length_le : l.length ≤ n
  /-- What is left out is left out for want of room and comes later. -/
  rest : ∀ t ∈ S, t ∉ l → l.length = n ∧ ∀ u ∈ l, u < t

namespace FirstOf

variable {n : Nat} {S : Set Instant} {l : List Instant} {t : Instant}

theorem zero (S : Set Instant) : FirstOf 0 S [] :=
  ⟨.nil, by simp, le_rfl, by simp⟩

theorem empty (n : Nat) : FirstOf n ∅ [] :=
  ⟨.nil, by simp, Nat.zero_le n, by simp⟩

theorem cons (ht : IsLeast S t) (hl : FirstOf n {u ∈ S | t < u} l) :
    FirstOf (n + 1) S (t :: l) where
  sorted := .cons (fun u hu => (hl.mem u hu).2) hl.sorted
  mem := by
    intro u hu
    rcases List.mem_cons.1 hu with rfl | hu
    · exact ht.1
    · exact (hl.mem u hu).1
  length_le := Nat.succ_le_succ hl.length_le
  rest := by
    intro u hu hnot
    rw [List.mem_cons, not_or] at hnot
    have hlt : t < u := lt_of_le_of_ne (ht.2 hu) (Ne.symm hnot.1)
    obtain ⟨hlen, hall⟩ := hl.rest u ⟨hu, hlt⟩ hnot.2
    refine ⟨congrArg Nat.succ hlen, ?_⟩
    intro v hv
    rcases List.mem_cons.1 hv with rfl | hv
    · exact hlt
    · exact hall v hv

theorem takeWhile_eq_filter {keep : Instant → Bool} (hl : l.Pairwise (· < ·))
    (hkeep : ∀ t u, t < u → keep u = true → keep t = true) :
    l.takeWhile keep = l.filter keep := by
  induction l with
  | nil => rfl
  | cons t l ih =>
    obtain ⟨ht, hl⟩ := List.pairwise_cons.1 hl
    cases hk : keep t with
    | true => rw [List.takeWhile_cons_of_pos hk, List.filter_cons_of_pos hk, ih hl]
    | false =>
      have hnone : ∀ u ∈ l, ¬ keep u = true := by
        intro u hu hku
        rw [hkeep t u (ht u hu) hku] at hk
        cases hk
      rw [List.takeWhile_cons_of_neg (by simp [hk]), List.filter_cons_of_neg (by simp [hk]),
        List.filter_eq_nil_iff.2 hnone]

theorem filter {keep : Instant → Bool} (h : FirstOf n S l)
    (hkeep : ∀ t u, t < u → keep u = true → keep t = true) :
    FirstOf n {t ∈ S | keep t = true} (l.filter keep) where
  sorted := h.sorted.filter keep
  mem t ht := ⟨h.mem t (List.mem_of_mem_filter ht), List.of_mem_filter ht⟩
  length_le := (List.length_filter_le keep l).trans h.length_le
  rest := by
    rintro t ⟨hS, ht⟩ hnot
    obtain ⟨hlen, hlt⟩ := h.rest t hS fun hmem => hnot (List.mem_filter.2 ⟨hmem, ht⟩)
    have hall : l.filter keep = l := List.filter_eq_self.2 fun u hu => hkeep u t (hlt u hu) ht
    rw [hall]
    exact ⟨hlen, hlt⟩

theorem encard_eq (h : FirstOf n S l) : ({t | t ∈ l} : Set Instant).encard = l.length :=
  encard_of_nodup (h.sorted.imp ne_of_lt)

theorem mem_iff (h : FirstOf n S l) (hS : S.encard ≤ n) : t ∈ l ↔ t ∈ S := by
  refine ⟨h.mem t, fun ht => ?_⟩
  by_contra hnot
  have hsub : insert t ({u | u ∈ l} : Set Instant) ⊆ S := Set.insert_subset ht h.mem
  have hcard := (Set.encard_le_encard hsub).trans hS
  have hnot' : t ∉ ({u | u ∈ l} : Set Instant) := hnot
  rw [Set.encard_insert_of_notMem hnot', h.encard_eq, (h.rest t ht hnot).1] at hcard
  have : n + 1 ≤ n := by exact_mod_cast hcard
  omega

theorem eq_of_length_le (h : FirstOf (n + 1) S l) (hl : l.length ≤ n) : {t | t ∈ l} = S := by
  ext t
  refine ⟨h.mem t, fun ht => ?_⟩
  by_contra hnot
  have := (h.rest t ht hnot).1
  omega

theorem encard_le_iff (h : FirstOf (n + 1) S l) : S.encard ≤ n ↔ l.length ≤ n := by
  constructor
  · intro hS
    have hcard := (Set.encard_le_encard (show {t | t ∈ l} ⊆ S from h.mem)).trans hS
    rw [h.encard_eq] at hcard
    exact_mod_cast hcard
  · intro hl
    rw [← h.eq_of_length_le hl, h.encard_eq]
    exact_mod_cast hl

theorem exists_isLeast (h : FirstOf 1 S l) (ht : t ∈ S) : ∃ u, IsLeast S u := by
  cases l with
  | nil => exact absurd (h.rest t ht (by simp)).1 (by simp)
  | cons u l =>
    refine ⟨u, h.mem u (by simp), fun v hv => ?_⟩
    by_cases hmem : v ∈ u :: l
    · rcases List.mem_cons.1 hmem with rfl | hmem
      · exact le_rfl
      · exact ((List.pairwise_cons.1 h.sorted).1 v hmem).le
    · exact ((h.rest v hv hmem).2 u (by simp)).le

theorem getLast?_eq_some_iff (h : FirstOf (n + 1) S l) (hl : l.length ≤ n) :
    l.getLast? = some t ↔ IsGreatest S t := by
  have hS := h.eq_of_length_le hl
  have hgreatest {u : Instant} (hu : l.getLast? = some u) : IsGreatest S u := by
    obtain ⟨l', rfl⟩ := List.getLast?_eq_some_iff.1 hu
    refine ⟨h.mem u (by simp), fun v hv => ?_⟩
    have hv : v ∈ l' ++ [u] := by rwa [← hS] at hv
    rcases List.mem_append.1 hv with hv | hv
    · exact ((List.pairwise_append.1 h.sorted).2.2 v hv u (by simp)).le
    · exact (List.mem_singleton.1 hv).le
  refine ⟨hgreatest, fun ht => ?_⟩
  cases hu : l.getLast? with
  | none =>
    have hnil := List.getLast?_eq_none_iff.1 hu
    have hmem : t ∈ l := by
      rw [← hS] at ht
      exact ht.1
    simp [hnil] at hmem
  | some u => rw [(hgreatest hu).unique ht]

end FirstOf

namespace Enumeration

variable {firings : Enumeration} {S : Set Instant} {keep : Instant → Bool} {n limit : Nat}
  {time t : Instant}

/-- The firings are the members of `S` in order, up to the first that fails the test. -/
def Lists (firings : Enumeration) (S : Set Instant) : Prop :=
  ∀ keep n, ∃ l, FirstOf n S l ∧ firings keep n = l.takeWhile keep

theorem Lists.firstOf (h : firings.Lists S)
    (hkeep : ∀ t u, t < u → keep u = true → keep t = true) :
    FirstOf n {t ∈ S | keep t = true} (firings keep n) := by
  obtain ⟨l, hl, he⟩ := h keep n
  rw [he, FirstOf.takeWhile_eq_filter hl.sorted hkeep]
  exact hl.filter hkeep

theorem Lists.latest?_eq_some_iff (h : firings.Lists S) :
    firings.latest? time limit = some t ↔
      IsGreatest {t ∈ S | t ≤ time} t ∧ {t ∈ S | t ≤ time}.encard ≤ limit := by
  have hpast : FirstOf (limit + 1) {t ∈ S | decide (t ≤ time) = true}
      (firings (· ≤ time) (limit + 1)) := by
    apply h.firstOf
    intro t u htu hu
    simp only [decide_eq_true_eq] at *
    exact htu.le.trans hu
  simp only [decide_eq_true_eq] at hpast
  rw [latest?, hpast.encard_le_iff]
  by_cases hl : (firings (· ≤ time) (limit + 1)).length ≤ limit
  · simp only [hl, if_true, and_true]
    exact hpast.getLast?_eq_some_iff hl
  · simp [hl]

/-- With a lower limit come the first of the firings that come with a higher one. -/
def Nested (firings : Enumeration) : Prop :=
  ∀ keep {m n}, m ≤ n → firings keep m = (firings keep n).take m

/-- What a search finds it also finds with a higher limit: it did not stop at the lower one. -/
theorem Nested.latest?_of_le {m : Nat} (h : firings.Nested) (hmn : m ≤ n)
    (ht : firings.latest? time m = some t) : firings.latest? time n = some t := by
  have htake : firings (· ≤ time) (m + 1) = (firings (· ≤ time) (n + 1)).take (m + 1) :=
    h _ (Nat.succ_le_succ hmn)
  simp only [latest?] at *
  split at ht
  · next hlength =>
    have hfew : (firings (· ≤ time) (n + 1)).length ≤ m := by
      rw [htake, List.length_take] at hlength
      omega
    rw [htake, List.take_of_length_le (by omega)] at ht
    rw [if_pos (hfew.trans hmn), ht]
  · cases ht

end Enumeration

namespace Expression

variable {e : Expression} {zone : Zone} {after t : Instant} {keep : Instant → Bool} {n : Nat}

theorem firingsFrom_eq_takeWhile (w : Walk) :
    e.firingsFrom zone keep n w = (e.firingsFrom zone (fun _ => true) n w).takeWhile keep := by
  induction n generalizing w with
  | zero => rfl
  | succ n ih =>
    simp only [firingsFrom]
    cases e.step? zone w with
    | none => rfl
    | some next =>
      obtain ⟨t, w'⟩ := next
      simp only [if_true, List.takeWhile_cons, ← ih]

theorem firingsWhile_eq_takeWhile :
    e.firingsWhile zone after keep n = (e.firings zone after n).takeWhile keep := by
  rw [firings, firingsWhile, firingsWhile]
  split
  · exact firingsFrom_eq_takeWhile _
  · rfl

theorem firingsFrom_eq_take {m : Nat} (h : m ≤ n) (w : Walk) :
    e.firingsFrom zone keep m w = (e.firingsFrom zone keep n w).take m := by
  induction m generalizing n w with
  | zero => rfl
  | succ m ih =>
    cases n with
    | zero => omega
    | succ n =>
      simp only [firingsFrom]
      cases e.step? zone w with
      | none => rfl
      | some next =>
        obtain ⟨t, w'⟩ := next
        simp only
        split
        · rw [List.take_succ_cons, ih (Nat.le_of_succ_le_succ h)]
        · rfl

theorem firingsWhile_nested : Enumeration.Nested (e.firingsWhile zone after) := by
  intro keep m n h
  rw [firingsWhile, firingsWhile]
  split
  · exact firingsFrom_eq_take h _
  · exact List.take_nil.symm

/-- After each instant from `floor` on come the later members of `F`, in order. -/
def Chronological (e : Expression) (zone : Zone) (F : Set Instant) (floor : Instant) : Prop :=
  ∀ after, floor ≤ after → ∀ n, FirstOf n {t ∈ F | after < t} (e.firings zone after n)

theorem lists_of_firstOf {S : Set Instant} (h : ∀ n, FirstOf n S (e.firings zone after n)) :
    Enumeration.Lists (e.firingsWhile zone after) S :=
  fun _ n => ⟨e.firings zone after n, h n, firingsWhile_eq_takeWhile⟩

theorem Chronological.lists {F : Set Instant} {floor : Instant}
    (h : e.Chronological zone F floor) (hafter : floor ≤ after) :
    Enumeration.Lists (e.firingsWhile zone after) {t ∈ F | after < t} :=
  lists_of_firstOf (h after hafter)

end Expression

theorem instantsOf_utc (c : ClockTime) : Zone.utc.instantsOf c = [.ofSeconds c.seconds] := by
  simp [Zone.instantsOf, Zone.utc, Offsets.showing, Offsets.showingFrom]

namespace Expression

variable {e : Expression} {after t : Instant} {n : Nat}

/-- The seconds that the fields hold by the clock of universal time. -/
def universalFirings (e : Expression) : Set Instant := {t | t.Whole ∧ e.fires t = true}

theorem step?_utc :
    e.step? .utc (walkAfter .utc after) =
      (e.times.listed (walkAfter .utc after).clock).head?.map fun c =>
        (.ofSeconds c.seconds, walkAfter .utc (.ofSeconds c.seconds)) := by
  simp only [step?, walkAfter, nextInstants?, Times.findSome?_eq_listed, instantsOf_utc]
  cases e.times.listed _ with
  | nil => rfl
  | cons c l => rfl

theorem clock_walkAfter_utc :
    (walkAfter .utc after).clock = ClockTime.ofSeconds (after.seconds + 1) := by
  simp only [walkAfter, Zone.clock, Zone.utc, Offsets.offsetAt, Offsets.offsetFrom, Instant.seconds]
  congr 1
  omega

theorem clock_mem_listed (hy : e.times.years.Within .year)
    (h : Instant.ofYear 0 ≤ ⟨after.nanos + 1000000000⟩) (ht : t.Whole) :
    t.clock ∈ e.times.listed (walkAfter .utc after).clock ↔ after < t ∧ e.fires t = true := by
  have hyear : 0 ≤ (ClockTime.ofSeconds (after.seconds + 1)).year := by
    rw [Instant.le_year_iff]
    have := Instant.seconds_mono h
    simp only [Instant.seconds] at *
    omega
  have hlt : after < t ↔ after.seconds + 1 ≤ t.seconds := by
    conv_lhs => rw [Instant.whole_iff.1 ht, Instant.lt_ofSeconds_iff]
    omega
  have hvalid : t.clock.Valid := ClockTime.ofSeconds_valid _
  have hgreatest (hfires : e.fires t = true) : t.clock.year ≤ CalendarUnit.year.greatest :=
    Times.year_le hy hfires
  rw [clock_walkAfter_utc, Times.mem_listed (ClockTime.ofSeconds_valid _), hlt,
    ClockTime.seconds_ofSeconds, Instant.seconds_clock]
  exact ⟨fun h => ⟨h.2.2.1, h.2.2.2.1⟩, fun h => ⟨hyear, hvalid, h.1, h.2, hgreatest h.2⟩⟩

theorem step?_utc_spec (hy : e.times.years.Within .year)
    (h : Instant.ofYear 0 ≤ ⟨after.nanos + 1000000000⟩) :
    (∃ t, e.step? .utc (walkAfter .utc after) = some (t, walkAfter .utc t) ∧
        IsLeast {u ∈ e.universalFirings | after < u} t) ∨
      e.step? .utc (walkAfter .utc after) = none ∧
        {u ∈ e.universalFirings | after < u} = (∅ : Set Instant) := by
  have hmem {u : Instant} (hu : u.Whole) := clock_mem_listed hy h hu
  have hvalid := ClockTime.ofSeconds_valid (after.seconds + 1)
  have hsorted := Times.listed_sorted (t := e.times) hvalid
  have hall {c : ClockTime} :
      c ∈ e.times.listed (ClockTime.ofSeconds (after.seconds + 1)) → c.Valid :=
    fun hc => ((Times.mem_listed hvalid).1 hc).2.1
  rw [← clock_walkAfter_utc] at hsorted hall
  rw [step?_utc]
  cases hl : e.times.listed (walkAfter .utc after).clock with
  | nil =>
    refine .inr ⟨rfl, Set.eq_empty_iff_forall_notMem.2 ?_⟩
    rintro u ⟨⟨hu, hfires⟩, hlt⟩
    have := (hmem hu).2 ⟨hlt, hfires⟩
    simp [hl] at this
  | cons c l =>
    rw [hl] at hsorted
    have hc : c ∈ e.times.listed (walkAfter .utc after).clock := by simp [hl]
    have hclock : (Instant.ofSeconds c.seconds).clock = c := by
      rw [Instant.clock_ofSeconds]
      exact (hall hc).ofSeconds_seconds
    have hwhole := Instant.whole_ofSeconds c.seconds
    obtain ⟨hlt, hfires⟩ := (hmem hwhole).1 (hclock.symm ▸ hc)
    refine .inl ⟨_, rfl, ⟨⟨hwhole, hfires⟩, hlt⟩, ?_⟩
    rintro u ⟨⟨hu, hufires⟩, hult⟩
    have humem := (hmem hu).2 ⟨hult, hufires⟩
    rw [Instant.whole_iff.1 hu, ← not_lt, Instant.ofSeconds_lt_iff, not_lt]
    rw [hl, List.mem_cons] at humem
    rcases humem with he | hin
    · rw [← he, Instant.seconds_clock]
    · have := (List.pairwise_cons.1 hsorted).1 _ hin
      rw [Instant.seconds_clock] at this
      exact this.le

theorem firstOf_firingsFrom_utc (hy : e.times.years.Within .year)
    (h : Instant.ofYear 0 ≤ ⟨after.nanos + 1000000000⟩) :
    FirstOf n {t ∈ e.universalFirings | after < t}
      (e.firingsFrom .utc (fun _ => true) n (walkAfter .utc after)) := by
  induction n generalizing after with
  | zero => exact .zero _
  | succ n ih =>
    rw [firingsFrom]
    rcases step?_utc_spec hy h with ⟨t, hstep, hleast⟩ | ⟨hstep, hempty⟩
    · rw [hstep]
      have hlt : after < t := hleast.1.2
      apply FirstOf.cons hleast
      have hset : {u ∈ {u ∈ e.universalFirings | after < u} | t < u} =
          {u ∈ e.universalFirings | t < u} := by
        ext u
        exact ⟨fun hu => ⟨hu.1.1, hu.2⟩, fun hu => ⟨⟨hu.1, hlt.trans hu.2⟩, hu.2⟩⟩
      rw [hset]
      apply ih
      rw [Instant.le_iff] at *
      rw [Instant.lt_iff] at hlt
      simp only at *
      omega
    · rw [hstep, hempty]
      exact .empty _

theorem lt_ofYear_of_mem (hy : e.times.years.Within .year) (ht : t ∈ e.universalFirings) :
    t.seconds < (Instant.ofYear 2101).seconds := by
  rw [← not_le, ← Instant.le_year_iff]
  have := Times.year_le hy ht.2
  simp only [CalendarUnit.greatest, Instant.clock] at this
  omega

theorem firstOf_firings_utc (hy : e.times.years.Within .year)
    (h : Instant.ofYear 0 ≤ ⟨after.nanos + 1000000000⟩) :
    FirstOf n {t ∈ e.universalFirings | after < t} (e.firings .utc after n) := by
  rw [firings, firingsWhile]
  split
  · exact firstOf_firingsFrom_utc hy h
  · next hnone =>
    -- In the last second all firings are past.
    have hempty : {t ∈ e.universalFirings | after < t} = (∅ : Set Instant) := by
      rw [Set.eq_empty_iff_forall_notMem]
      rintro t ⟨ht, hlt⟩
      have hyear := lt_ofYear_of_mem hy ht
      have hlate := Instant.add?_eq_none_iff.1 (Option.not_isSome_iff_eq_none.1 hnone)
      have hfirst : Instant.first ≤ Instant.ofYear 0 := by decide
      have hlast : (Instant.ofYear 2101).seconds * 1000000000 + 1000000000 ≤
          Instant.last.nanos := by decide
      simp only [Instant.Representable, Instant.le_iff, Instant.lt_iff, Instant.seconds] at *
      omega
    rw [hempty]
    exact .empty _

/-- Before year 0 the walk finds nothing. -/
theorem firings_utc_eq_nil (h : ⟨after.nanos + 1000000000⟩ < Instant.ofYear 0) :
    e.firings .utc after n = [] := by
  have hyear : (walkAfter .utc after).clock.year < 0 := by
    rw [clock_walkAfter_utc, ← not_le, Instant.le_year_iff]
    simp only [Instant.lt_iff, Instant.seconds, Instant.ofYear, Instant.ofSeconds] at *
    omega
  have hstep : e.step? .utc (walkAfter .utc after) = none := by
    rw [step?_utc, Times.listed, Times.dates, if_pos hyear]
    rfl
  rw [firings, firingsWhile]
  split
  · cases n with
    | zero => rfl
    | succ n => rw [firingsFrom, hstep]
  · rfl

/-- In universal time an expression fires, in order, in all seconds that its fields hold. -/
theorem chronological_utc (hy : e.times.years.Within .year) {floor : Instant}
    (hfloor : Instant.ofYear 0 ≤ floor) : e.Chronological .utc e.universalFirings floor := by
  intro after h n
  apply firstOf_firings_utc hy
  rw [Instant.le_iff] at *
  simp only
  omega

theorem firings_eq_take {zone : Zone} {m : Nat} (h : m ≤ n) :
    e.firings zone after m = (e.firings zone after n).take m :=
  firingsWhile_nested (fun _ => true) h

theorem encard_universalFirings_le (hy : e.times.years.Within .year) :
    {t ∈ e.universalFirings | after < t}.encard ≤
      ((Instant.ofYear 2101).seconds - (after.seconds - 1)).toNat := by
  apply Instant.encard_whole_le
  rintro t ⟨ht, hlt⟩
  have hyear := lt_ofYear_of_mem hy ht
  have := Instant.seconds_mono hlt.le
  exact ⟨ht.1, by omega, by omega⟩

/-- The enumeration in universal time goes in order through the whole seconds after an instant in
which the expression fires, and leaves none out. -/
theorem firings_utc_complete {text : String} (h : Expression.parse text = .ok e)
    (hafter : Instant.ofYear 0 ≤ after) :
    (∀ m n, m ≤ n → e.firings .utc after m = (e.firings .utc after n).take m) ∧
      (∀ n, (e.firings .utc after n).Pairwise (· < ·)) ∧
      ∀ t, (∃ n, t ∈ e.firings .utc after n) ↔ t.Whole ∧ after < t ∧ e.fires t = true := by
  have hy := Expression.parse_years h
  have hfirst (n : Nat) := chronological_utc hy hafter after le_rfl n
  refine ⟨fun m n hmn => firings_eq_take hmn, fun n => (hfirst n).sorted, ?_⟩
  intro t
  constructor
  · rintro ⟨n, ht⟩
    obtain ⟨⟨hwhole, hfires⟩, hlt⟩ := (hfirst n).mem t ht
    exact ⟨hwhole, hlt, hfires⟩
  · rintro ⟨hwhole, hlt, hfires⟩
    exact ⟨_, ((hfirst _).mem_iff (encard_universalFirings_le hy)).2 ⟨⟨hwhole, hfires⟩, hlt⟩⟩

def leapThursdays : Expression :=
  ⟨"0 0 29 2 4", ⟨.just 0, .just 0, .just 0, .just 29, .just 2, .just 5, .every .year⟩⟩

theorem firings_leapThursdays_2052 :
    Expression.parse "0 0 29 2 4" = .ok leapThursdays ∧
      Instant.ofYear 0 ≤ ⟨1709251199500000000⟩ ∧
      (∀ n, (leapThursdays.firings .utc ⟨1709251199500000000⟩ n).Pairwise (· < ·)) ∧
      ∃ n, Instant.ofSeconds 2592777600 ∈ leapThursdays.firings .utc ⟨1709251199500000000⟩ n := by
  have hparse : Expression.parse "0 0 29 2 4" = .ok leapThursdays := by decide
  have hafter : Instant.ofYear 0 ≤ ⟨1709251199500000000⟩ := by decide
  obtain ⟨_, hsorted, hmem⟩ := firings_utc_complete hparse hafter
  exact ⟨hparse, hafter, hsorted, (hmem _).2 ⟨Instant.whole_ofSeconds _, by decide, by decide⟩⟩

end Expression

end FeatureFlags.Cron
