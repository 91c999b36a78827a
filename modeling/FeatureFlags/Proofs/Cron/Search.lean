import FeatureFlags.Cron.Times
import FeatureFlags.Proofs.Time.Calendar

namespace FeatureFlags.Cron

open Time

theorem findSome?_ite {α β : Type} (l : List α) (p : α → Bool) (result : α → Option β) :
    l.findSome? (fun a => if p a then result a else none) = (l.filter p).findSome? result := by
  induction l with
  | nil => rfl
  | cons a l ih =>
    rw [List.findSome?_cons, List.filter_cons, ih]
    cases p a <;> rfl

theorem findSome?_flatMap {α β γ : Type} (l : List α) (f : α → List β) (result : β → Option γ) :
    (l.flatMap f).findSome? result = l.findSome? fun a => (f a).findSome? result := by
  induction l with
  | nil => rfl
  | cons a l ih =>
    rw [List.flatMap_cons, List.findSome?_append, ih, List.findSome?_cons]
    cases (f a).findSome? result <;> rfl

namespace Field

variable {f : Field} {n least greatest : Nat}

def listed (f : Field) (least greatest : Nat) : List Nat :=
  (List.range' least (greatest + 1 - least)).filter f.contains

theorem mem_listed :
    n ∈ f.listed least greatest ↔ least ≤ n ∧ n ≤ greatest ∧ f.contains n = true := by
  have hrange : least ≤ n ∧ n < least + (greatest + 1 - least) ↔ least ≤ n ∧ n ≤ greatest := by
    omega
  rw [listed, List.mem_filter, List.mem_range'_1, hrange, and_assoc]

theorem listed_sorted : (f.listed least greatest).Pairwise (· < ·) :=
  List.Pairwise.filter _ List.pairwise_lt_range'

theorem findSome?_eq_listed {α : Type} (result : Nat → Option α) :
    f.findSome? least greatest result = (f.listed least greatest).findSome? result :=
  findSome?_ite _ _ _

end Field

namespace Times

variable {t : Times} {c c' : ClockTime} {d : Date} {bound : Bool}

theorem lowest_le_iff {value least n : Nat} (h : least ≤ value) :
    lowest bound value least ≤ n ↔ least ≤ n ∧ (bound = true → value ≤ n) := by
  cases bound with
  | true => simpa [lowest] using h.trans
  | false => simp [lowest]

def dates (t : Times) (c : ClockTime) : List Date :=
  if c.year < 0 then []
  else (t.years.listed c.year.toNat CalendarUnit.year.greatest).flatMap fun year : Nat =>
    (t.months.listed (lowest (decide ((year : Int) = c.year)) c.month 1) 12).flatMap fun month =>
    ((t.days.listed (lowest (decide ((year : Int) = c.year) && month == c.month) c.day 1)
      (daysInMonth year month)).map fun day => (⟨year, month, day⟩ : Date)).filter fun d =>
        t.weekdays.contains (Date.weekday d.dayNumber)

/-- The clock times of a day that the fields hold, in order; none before `c` if it is bound. -/
def ofDay (t : Times) (c : ClockTime) (bound : Bool) (d : Date) : List ClockTime :=
  (t.hours.listed (lowest bound c.hour 0) 23).flatMap fun hour =>
    (t.minutes.listed (lowest (bound && hour == c.hour) c.minute 0) 59).flatMap fun minute =>
    (t.seconds.listed (lowest (bound && hour == c.hour && minute == c.minute) c.second 0) 59).map
      fun second => ⟨d.year, d.month, d.day, hour, minute, second⟩

/-- The clock times from `c` on that the fields hold, in order. -/
def listed (t : Times) (c : ClockTime) : List ClockTime :=
  (t.dates c).flatMap fun d => t.ofDay c (decide (d = c.date)) d

theorem findSome?_ofDay {α : Type} (result : ClockTime → Option α) :
    (t.ofDay c bound d).findSome? result =
      t.hours.findSome? (lowest bound c.hour 0) 23 fun hour =>
      t.minutes.findSome? (lowest (bound && hour == c.hour) c.minute 0) 59 fun minute =>
      t.seconds.findSome? (lowest (bound && hour == c.hour && minute == c.minute) c.second 0) 59
        fun second => result ⟨d.year, d.month, d.day, hour, minute, second⟩ := by
  simp only [ofDay, findSome?_flatMap, List.findSome?_map, Function.comp_def,
    Field.findSome?_eq_listed]

theorem findSome?_eq_listed {α : Type} (result : ClockTime → Option α) :
    t.findSome? result c = (t.listed c).findSome? result := by
  have hbound (year : Int) (month day : Nat) :
      decide ((⟨year, month, day⟩ : Date) = c.date) =
        (decide (year = c.year) && month == c.month && day == c.day) := by
    simp only [ClockTime.date, Date.mk.injEq, Bool.decide_and, Bool.and_assoc]
    rfl
  have hday (b : Bool) (x : Option α) :
      (if (!b) = true then none else x) = if b then x else none := by
    cases b <;> rfl
  simp only [findSome?, listed, dates, findSome?_flatMap, findSome?_ofDay]
  split
  · rfl
  · simp only [findSome?_flatMap, ← findSome?_ite, List.findSome?_map, Function.comp_def, hbound,
      hday, Field.findSome?_eq_listed]

theorem mem_dates (hc : c.Valid) :
    d ∈ t.dates c ↔ 0 ≤ c.year ∧ d.Valid ∧ c.date.dayNumber ≤ d.dayNumber ∧
      (0 ≤ d.year ∧ t.years.contains d.year.toNat = true) ∧ t.months.contains d.month = true ∧
      t.days.contains d.day = true ∧ t.weekdays.contains (Date.weekday d.dayNumber) = true ∧
      d.year ≤ CalendarUnit.year.greatest := by
  have hmonth : 1 ≤ c.month := hc.1.1
  have hday : 1 ≤ c.day := hc.1.2.2.1
  have hbefore {d : Date} (hd : d.Valid) := hc.1.dayNumber_le_iff hd
  simp only [ClockTime.date] at hbefore
  unfold dates
  split
  · simp only [List.not_mem_nil, false_iff]
    omega
  · simp only [List.mem_flatMap, List.mem_filter, List.mem_map, Field.mem_listed,
      lowest_le_iff hmonth, lowest_le_iff hday, Bool.and_eq_true, beq_iff_eq, decide_eq_true_eq]
    constructor
    · rintro ⟨year, ⟨hy, hy', hyc⟩, month, ⟨⟨hm, hm'⟩, hm'', hmc⟩,
        ⟨day, ⟨⟨hd, hd'⟩, hd'', hdc⟩, rfl⟩, hw⟩
      have hvalid : Date.Valid ⟨year, month, day⟩ := ⟨hm, hm'', hd, hd''⟩
      refine ⟨by omega, hvalid, (hbefore hvalid).2 ?_, ⟨by simp, hyc⟩, hmc, hdc, hw,
        by simpa using hy'⟩
      simp only
      omega
    · rintro ⟨hyear, hvalid, hle, ⟨hy, hyc⟩, hmc, hdc, hw, hy'⟩
      have hle' := (hbefore hvalid).1 hle
      have hcast : (d.year.toNat : Int) = d.year := Int.toNat_of_nonneg hy
      obtain ⟨hm, hm', hd, hd'⟩ := hvalid
      refine ⟨d.year.toNat, ⟨by omega, by omega, hyc⟩, d.month,
        ⟨⟨hm, fun h => (hle'.2 (by omega)).1⟩, hm', hmc⟩,
        ⟨d.day, ⟨⟨hd, fun h => (hle'.2 (by omega)).2 h.2⟩, by rwa [hcast], hdc⟩, ?_⟩, hw⟩
      rw [hcast]

theorem dates_sorted (hc : c.Valid) :
    (t.dates c).Pairwise fun d d' => d.dayNumber < d'.dayNumber := by
  have hlex : (t.dates c).Pairwise fun d d' => d.year < d'.year ∨ d.year = d'.year ∧
      (d.month < d'.month ∨ d.month = d'.month ∧ d.day < d'.day) := by
    unfold dates
    split
    · exact .nil
    · rw [List.pairwise_flatMap]
      refine ⟨fun year _ => ?_, Field.listed_sorted.imp fun {year year'} hlt => ?_⟩
      · rw [List.pairwise_flatMap]
        refine ⟨fun month _ => ?_, Field.listed_sorted.imp fun {month month'} hlt => ?_⟩
        · apply List.Pairwise.filter
          rw [List.pairwise_map]
          exact Field.listed_sorted.imp fun hlt => .inr ⟨rfl, .inr ⟨rfl, hlt⟩⟩
        · simp only [List.mem_filter, List.mem_map]
          rintro _ ⟨⟨_, _, rfl⟩, _⟩ _ ⟨⟨_, _, rfl⟩, _⟩
          exact .inr ⟨rfl, .inl hlt⟩
      · simp only [List.mem_flatMap, List.mem_filter, List.mem_map]
        rintro _ ⟨_, _, ⟨_, _, rfl⟩, _⟩ _ ⟨_, _, ⟨_, _, rfl⟩, _⟩
        exact .inl (Int.ofNat_lt.2 hlt)
  apply hlex.imp_of_mem
  intro d d' hd hd' h
  have hle := ((mem_dates hc).1 hd').2.1.dayNumber_le_iff ((mem_dates hc).1 hd).2.1
  omega

theorem mem_ofDay :
    c' ∈ t.ofDay c bound d ↔ c'.date = d ∧ (c'.hour < 24 ∧ c'.minute < 60 ∧ c'.second < 60) ∧
      (bound = true → c.hour ≤ c'.hour ∧ (c'.hour = c.hour → c.minute ≤ c'.minute ∧
        (c'.minute = c.minute → c.second ≤ c'.second))) ∧
      t.hours.contains c'.hour = true ∧ t.minutes.contains c'.minute = true ∧
      t.seconds.contains c'.second = true := by
  simp only [ofDay, List.mem_flatMap, List.mem_map, Field.mem_listed, lowest_le_iff (Nat.zero_le _),
    Bool.and_eq_true, beq_iff_eq]
  constructor
  · rintro ⟨hour, ⟨⟨_, hh⟩, hh', hhc⟩, minute, ⟨⟨_, hm⟩, hm', hmc⟩, second, ⟨⟨_, hs⟩, hs', hsc⟩,
      rfl⟩
    exact ⟨rfl, by simp only; omega, by simp only; tauto, hhc, hmc, hsc⟩
  · rintro ⟨rfl, ⟨hh, hm, hs⟩, hb, hhc, hmc, hsc⟩
    refine ⟨c'.hour, ⟨⟨Nat.zero_le _, fun h => (hb h).1⟩, by omega, hhc⟩, c'.minute,
      ⟨⟨Nat.zero_le _, fun h => ((hb h.1).2 h.2).1⟩, by omega, hmc⟩, c'.second,
      ⟨⟨Nat.zero_le _, fun h => ((hb h.1.1).2 h.1.2).2 h.2⟩, by omega, hsc⟩, rfl⟩

theorem ofDay_sorted : (t.ofDay c bound d).Pairwise fun a b => a.seconds < b.seconds := by
  rw [ofDay, List.pairwise_flatMap]
  refine ⟨fun hour _ => ?_, Field.listed_sorted.imp fun {hour hour'} hlt => ?_⟩
  · rw [List.pairwise_flatMap]
    refine ⟨fun minute _ => ?_, Field.listed_sorted.imp fun {minute minute'} hlt => ?_⟩
    · rw [List.pairwise_map]
      exact Field.listed_sorted.imp fun hlt => by
        simp only [ClockTime.seconds, ClockTime.date]
        omega
    · simp only [List.mem_map, Field.mem_listed]
      rintro _ ⟨second, ⟨_, _, _⟩, rfl⟩ _ ⟨second', ⟨_, _, _⟩, rfl⟩
      simp only [ClockTime.seconds, ClockTime.date]
      omega
  · simp only [List.mem_flatMap, List.mem_map, Field.mem_listed]
    rintro _ ⟨minute, ⟨_, _, _⟩, second, ⟨_, _, _⟩, rfl⟩ _
      ⟨minute', ⟨_, _, _⟩, second', ⟨_, _, _⟩, rfl⟩
    simp only [ClockTime.seconds, ClockTime.date]
    omega

theorem mem_listed (hc : c.Valid) :
    c' ∈ t.listed c ↔ 0 ≤ c.year ∧ c'.Valid ∧ c.seconds ≤ c'.seconds ∧ t.contains c' = true ∧
      c'.year ≤ CalendarUnit.year.greatest := by
  rw [listed, List.mem_flatMap]
  simp only [mem_dates hc, mem_ofDay, decide_eq_true_eq, contains, Bool.and_eq_true]
  constructor
  · rintro ⟨_, ⟨h, hvalid, hle, ⟨hy, hyc⟩, hmc, hdc, hw, hy'⟩, rfl, hb, hfrom, hhc, hnc, hsc⟩
    refine ⟨h, ⟨hvalid, hb⟩, ?_, ⟨⟨⟨⟨⟨⟨⟨hy, hyc⟩, hmc⟩, hdc⟩, hw⟩, hhc⟩, hnc⟩, hsc⟩, hy'⟩
    have hsame (he : c'.date.dayNumber = c.date.dayNumber) := hfrom (hvalid.ext_dayNumber hc.1 he)
    have hc' := hc.2
    simp only [ClockTime.seconds]
    omega
  · rintro ⟨h, ⟨hvalid, hb⟩, hle, ⟨⟨⟨⟨⟨⟨⟨hy, hyc⟩, hmc⟩, hdc⟩, hw⟩, hhc⟩, hnc⟩, hsc⟩, hy'⟩
    have hc' := hc.2
    simp only [ClockTime.seconds] at hle
    refine ⟨c'.date, ⟨h, hvalid, by omega, ⟨hy, hyc⟩, hmc, hdc, hw, hy'⟩, rfl, hb, ?_, hhc, hnc,
      hsc⟩
    intro he
    rw [he] at hle
    omega

theorem listed_sorted (hc : c.Valid) :
    (t.listed c).Pairwise fun a b => a.seconds < b.seconds := by
  rw [listed, List.pairwise_flatMap]
  refine ⟨fun d _ => ofDay_sorted, (dates_sorted hc).imp fun {d d'} hlt => ?_⟩
  intro a ha b hb
  obtain ⟨rfl, hbounds, _⟩ := mem_ofDay.1 ha
  obtain ⟨rfl, _, _⟩ := mem_ofDay.1 hb
  simp only [ClockTime.seconds]
  omega

end Times

end FeatureFlags.Cron
