import FeatureFlags.Proofs.Cron.Range
import FeatureFlags.Proofs.Cron.Renumbering

namespace FeatureFlags.Cron

open Weekday

/-- The run of days that a span stands for. -/
def Span.weekBounds? : Span → Option (Nat × Nat)
  | .all => some (0, 7)
  | .point n => if n ≤ 7 then some (n, n) else none
  | .range first last => if first ≤ last ∧ last ≤ 7 then some (first, last) else none
  | .namedRange first last => do
    let first ← CalendarUnit.weekday.named? first
    let last ← CalendarUnit.weekday.named? last
    if first ≤ last then some (first - 1, last - 1) else none

/-- With a step a single day opens a run to Saturday. -/
def Span.openWeekBounds? : Span → Option (Nat × Nat)
  | .point n => if n ≤ 7 then some (n % 7, 6) else none
  | s => s.weekBounds?

def Item.weekProgression? : Item → Option Progression
  | .span s => do
    let (first, last) ← s.weekBounds?
    return ⟨first, last, 1⟩
  | .stepped s step => do
    let (first, last) ← s.openWeekBounds?
    if 1 ≤ step ∧ step ≤ 7 then some ⟨first, last, step⟩ else none
  | .name n => do
    let n ← CalendarUnit.weekday.named? n
    return ⟨n - 1, n - 1, 1⟩

def Field.ReadsWeek (f : Field) (word : List Char) : Prop :=
  ∃ items, Spells .weekday items word ∧ items.mapM Item.weekProgression? = some f.items

variable {x y part word text : List Char} {outs parts : List (List Char)}
  {outss : List (List (List Char))} {n a b : Nat}

/-- Days of the calendar's numbering and people's for them. -/
def Renames (ps qs : List Progression) : Prop :=
  ∀ day, ps.any (·.contains day) = true ↔ ∃ d, qs.any (·.contains d) = true ∧ d % 7 + 1 = day

theorem contains_mk_iff {step : Nat} :
    (Progression.mk a b step).contains n = true ↔ a ≤ n ∧ n ≤ b ∧ (n - a) % step = 0 := by
  simp only [Progression.contains, Bool.and_eq_true, decide_eq_true_eq, beq_iff_eq, and_assoc]

theorem renames_shift (step : Nat) (hb : b < 7) :
    Renames [⟨a + 1, b + 1, step⟩] [⟨a, b, step⟩] := by
  intro day
  simp only [List.any_cons, List.any_nil, Bool.or_false, contains_mk_iff]
  constructor
  · rintro ⟨hfirst, hlast, hstep⟩
    refine ⟨day - 1, ⟨by omega, by omega, ?_⟩, by omega⟩
    rwa [show day - 1 - a = day - (a + 1) by omega]
  · rintro ⟨d, ⟨hfirst, hlast, hstep⟩, rfl⟩
    rw [Nat.mod_eq_of_lt (by omega : d < 7)]
    exact ⟨by omega, by omega, by rwa [Nat.add_sub_add_right]⟩

theorem renames_week (step : Nat) : Renames [⟨1, 7, step⟩] [⟨0, 7, step⟩] := by
  intro day
  simp only [List.any_cons, List.any_nil, Bool.or_false, contains_mk_iff]
  constructor
  · rintro ⟨hfirst, hlast, hstep⟩
    exact ⟨day - 1, ⟨by omega, by omega, hstep⟩, by omega⟩
  · rintro ⟨d, ⟨_, hlast, hstep⟩, rfl⟩
    refine ⟨by omega, by omega, ?_⟩
    by_cases hd : d = 7
    · subst hd
      exact Nat.zero_mod step
    · rwa [Nat.mod_eq_of_lt (by omega : d < 7)]

theorem renames_day (n : Nat) : Renames [⟨n % 7 + 1, n % 7 + 1, 1⟩] [⟨n, n, 1⟩] := by
  intro day
  simp only [List.any_cons, List.any_nil, Bool.or_false, contains_mk_iff, Nat.mod_one, and_true]
  constructor
  · rintro ⟨hfirst, hlast⟩
    exact ⟨n, by omega, by omega⟩
  · rintro ⟨d, ⟨hfirst, hlast⟩, rfl⟩
    obtain rfl : d = n := by omega
    exact ⟨Nat.le_refl _, Nat.le_refl _⟩

theorem renames_wrapped (ha : 0 < a) (ha' : a < 7) :
    Renames [⟨a + 1, 7, 1⟩, ⟨1, 1, 1⟩] [⟨a, 7, 1⟩] := by
  intro day
  simp only [List.any_cons, List.any_nil, Bool.or_false, Bool.or_eq_true, contains_mk_iff,
    Nat.mod_one, and_true]
  constructor
  · rintro (⟨hfirst, hlast⟩ | ⟨hfirst, hlast⟩)
    · exact ⟨day - 1, by omega, by omega⟩
    · exact ⟨7, by omega, by omega⟩
  · rintro ⟨d, ⟨hfirst, hlast⟩, rfl⟩
    omega

theorem bounds?_point (h : 1 ≤ n) (h' : n ≤ 7) :
    (Span.point n).bounds? .weekday = some (n, n) :=
  if_pos (CalendarUnit.admits_iff.2 ⟨h, h'⟩)

theorem bounds?_range (h : 1 ≤ a) (hab : a ≤ b) (h' : b ≤ 7) :
    (Span.range a b).bounds? .weekday = some (a, b) :=
  if_pos ⟨CalendarUnit.admits_iff.2 ⟨h, by exact hab.trans h'⟩,
    CalendarUnit.admits_iff.2 ⟨by exact h.trans hab, h'⟩, hab⟩

theorem progression?_of_bounds? {s : Span} (h : s.bounds? .weekday = some (a, b)) :
    (Item.span s).progression? .weekday = some ⟨a, b, 1⟩ := by
  simp only [Item.progression?, h]
  rfl

theorem weekProgression?_of_bounds? {s : Span} (h : s.weekBounds? = some (a, b)) :
    (Item.span s).weekProgression? = some ⟨a, b, 1⟩ := by
  simp only [Item.weekProgression?, h]
  rfl

theorem Renumbered.renames {s : Span} {ss : List Span} (h : Renumbered false s ss) :
    ∃ ps q, (ss.map Item.span).mapM (Item.progression? .weekday) = some ps ∧
      (Item.span s).weekProgression? = some q ∧ Renames ps [q] := by
  cases h with
  | @day _ n hn =>
    have hday := progression?_of_bounds? (bounds?_point (by omega : 1 ≤ n % 7 + 1) (by omega))
    exact ⟨[_], _, by simp [hday], weekProgression?_of_bounds? (if_pos hn), renames_day n⟩
  | @range _ a b hab hb =>
    have hrange := progression?_of_bounds?
      (bounds?_range (by omega : 1 ≤ a + 1) (by omega : a + 1 ≤ b + 1) (by omega))
    exact ⟨[_], _, by simp [hrange], weekProgression?_of_bounds? (if_pos ⟨hab, by omega⟩),
      renames_shift 1 hb⟩
  | week => exact ⟨_, _, rfl, rfl, renames_week 1⟩
  | sunday => exact ⟨_, _, rfl, rfl, renames_day 7⟩
  | @wrapped a ha ha' =>
    have hrange := progression?_of_bounds?
      (bounds?_range (by omega : 1 ≤ a + 1) (by omega : a + 1 ≤ 7) (by omega))
    have hsunday := progression?_of_bounds? (bounds?_point (by omega : 1 ≤ 1) (by omega))
    exact ⟨[_, _], _, by simp [hrange, hsunday],
      weekProgression?_of_bounds? (if_pos ⟨by omega, by omega⟩), renames_wrapped ha ha'⟩

/-- Before a step a span stays one span, and every step renames its days. -/
theorem Renumbered.renames_stepped {s : Span} {ss : List Span} (h : Renumbered true s ss) :
    ∃ t first last a b, ss = [t] ∧ t.openBounds? .weekday = some (first, last) ∧
      s.openWeekBounds? = some (a, b) ∧ ∀ step, Renames [⟨first, last, step⟩] [⟨a, b, step⟩] := by
  cases h with
  | @day _ n hn =>
    have hadmits : CalendarUnit.weekday.admits (n % 7 + 1) = true :=
      CalendarUnit.admits_iff.2 (by simp only [CalendarUnit.least, CalendarUnit.greatest]; omega)
    exact ⟨_, _, _, _, _, rfl, if_pos hadmits, if_pos hn, fun step => renames_shift step (by omega)⟩
  | @range _ a b hab hb =>
    exact ⟨_, _, _, _, _, rfl, bounds?_range (by omega) (by omega) (by omega),
      if_pos ⟨hab, by omega⟩, fun step => renames_shift step hb⟩
  | week => exact ⟨_, _, _, _, _, rfl, rfl, rfl, renames_week⟩

theorem Unnumbered.renames {s : Span} (hx : Unnumbered x) (hs : s.Spells .weekday x) :
    s.openBounds? .weekday = s.bounds? .weekday ∧ s.openWeekBounds? = s.weekBounds? ∧
      ∀ first last, s.bounds? .weekday = some (first, last) → ∃ a b,
        s.weekBounds? = some (a, b) ∧ ∀ step, Renames [⟨first, last, step⟩] [⟨a, b, step⟩] := by
  cases hs with
  | star | any =>
    refine ⟨rfl, rfl, fun first last h => ?_⟩
    cases h
    exact ⟨0, 7, rfl, renames_week⟩
  | point hn => exact absurd hn (hx.day _)
  | range hy hz => exact absurd hz (hx.range _ _ _ _ rfl hy)
  | namedRange =>
    refine ⟨rfl, rfl, fun first last h => ?_⟩
    simp only [Span.bounds?, Option.bind_eq_bind, Option.bind_eq_some_iff,
      Option.ite_none_right_eq_some, Option.some.injEq, Prod.mk.injEq] at h
    obtain ⟨a, ha, b, hb, hab, rfl, rfl⟩ := h
    have ha' := CalendarUnit.named?_range ha
    have hb' := CalendarUnit.named?_range hb
    simp only [CalendarUnit.least, CalendarUnit.greatest] at ha' hb'
    refine ⟨a - 1, b - 1, ?_, fun step => ?_⟩
    · simp [Span.weekBounds?, ha, hb, hab]
    · have hshift := renames_shift (a := a - 1) step (by omega : b - 1 < 7)
      rwa [Nat.sub_add_cancel ha'.1, Nat.sub_add_cancel hb'.1] at hshift

theorem stepped_renames {s t : Span} {first last step : Nat} {p : Progression}
    (ht : t.openBounds? .weekday = some (first, last)) (hs : s.openWeekBounds? = some (a, b))
    (hrenames : ∀ step, Renames [⟨first, last, step⟩] [⟨a, b, step⟩])
    (hp : (Item.stepped t step).progression? .weekday = some p) :
    ∃ q, (Item.stepped s step).weekProgression? = some q ∧ Renames [p] [q] := by
  simp only [Item.progression?, ht, Option.bind_eq_bind, Option.bind_some,
    Option.ite_none_right_eq_some, Option.some.injEq] at hp
  obtain ⟨hstep, rfl⟩ := hp
  refine ⟨⟨a, b, step⟩, ?_, hrenames step⟩
  simp only [Item.weekProgression?, hs]
  exact if_pos hstep

theorem Unnumbered.stepped_renames {s : Span} {step : Nat} {p : Progression} (hx : Unnumbered x)
    (hs : s.Spells .weekday x) (hp : (Item.stepped s step).progression? .weekday = some p) :
    ∃ q, (Item.stepped s step).weekProgression? = some q ∧ Renames [p] [q] := by
  obtain ⟨hopen, hweek, hbounds⟩ := hx.renames hs
  cases hspan : s.bounds? .weekday with
  | none => simp [Item.progression?, hopen, hspan] at hp
  | some bounds =>
    obtain ⟨a, b, hab, hrenames⟩ := hbounds bounds.1 bounds.2 hspan
    exact Cron.stepped_renames (hopen.trans hspan) (hweek.trans hab) hrenames hp

theorem Unnumbered.item_renames {i : Item} {p : Progression} (hpart : Unnumbered part)
    (hslash : '/' ∉ part) (hi : i.Spells .weekday part)
    (hp : i.progression? .weekday = some p) :
    ∃ q, i.weekProgression? = some q ∧ Renames [p] [q] := by
  cases hi with
  | span hs =>
    obtain ⟨_, _, hbounds⟩ := hpart.renames hs
    simp only [Item.progression?, Option.bind_eq_bind, Option.bind_eq_some_iff] at hp
    obtain ⟨⟨first, last⟩, hspan, he⟩ := hp
    cases he
    obtain ⟨a, b, hweek, hrenames⟩ := hbounds _ _ hspan
    exact ⟨_, weekProgression?_of_bounds? hweek, hrenames 1⟩
  | stepped => simp at hslash
  | name =>
    simp only [Item.progression?, Option.bind_eq_bind, Option.bind_eq_some_iff] at hp
    obtain ⟨n, hn, he⟩ := hp
    cases he
    have hrange := CalendarUnit.named?_range hn
    simp only [CalendarUnit.least, CalendarUnit.greatest] at hrange
    refine ⟨⟨n - 1, n - 1, 1⟩, by simp [Item.weekProgression?, hn], ?_⟩
    have hshift := renames_shift (a := n - 1) 1 (by omega : n - 1 < 7)
    rwa [Nat.sub_add_cancel hrange.1] at hshift

theorem item_of_singleton {items : List Item} {ps : List Progression}
    (hitems : List.Forall₂ (Item.Spells .weekday) items [x])
    (hps : items.mapM (Item.progression? .weekday) = some ps) :
    ∃ (i : Item) (p : Progression), i.Spells .weekday x ∧ i.progression? .weekday = some p ∧
      ps = [p] := by
  cases hitems with
  | @cons i _ _ _ hi hnil =>
    cases hnil
    obtain ⟨p, hp, rfl⟩ : ∃ p, i.progression? .weekday = some p ∧ [p] = ps := by
      simpa [Option.bind_eq_some_iff] using hps
    exact ⟨i, p, hi, hp, rfl⟩

theorem renumberItem_renames {items : List Item} {ps : List Progression}
    (h : renumberItem part = .ok outs) (hitems : List.Forall₂ (Item.Spells .weekday) items outs)
    (hps : items.mapM (Item.progression? .weekday) = some ps) :
    ∃ (i : Item) (q : Progression), i.Spells .weekday part ∧ i.weekProgression? = some q ∧
      Renames ps [q] := by
  rcases renumberItem_cases h with ⟨hslash, hspan⟩ | ⟨x, y, out, rfl, hx, hspan, rfl⟩
  · rcases renumberSpan_cases hspan with ⟨rfl, hun⟩ | ⟨s, ss, hs, hss, hren⟩
    · -- no number, so the text is kept and the item is the one that was read
      obtain ⟨i, p, hi, hp, rfl⟩ := item_of_singleton hitems hps
      obtain ⟨q, hq, hrenames⟩ := hun.item_renames hslash hi hp
      exact ⟨i, q, hi, hq, hrenames⟩
    · -- the new texts spell the spans of the new numbering and nothing else
      obtain ⟨ps', q, hps', hq, hrenames⟩ := hren.renames
      have hspans : List.Forall₂ (Item.Spells .weekday) (ss.map .span) outs :=
        List.forall₂_map_left_iff.2 (hss.imp fun _ _ ht => .span ht)
      obtain rfl : items = ss.map .span :=
        List.left_unique_forall₂' (fun _ _ _ hi hj => hi.unique hj) hitems hspans
      cases hps.symm.trans hps'
      exact ⟨_, q, .span hs, hq, hrenames⟩
  · obtain ⟨i, p, hi, hp, rfl⟩ := item_of_singleton hitems hps
    rcases renumberSpan_cases hspan with ⟨hout, hun⟩ | ⟨s, ss, hs, hss, hren⟩
    · cases hout
      obtain ⟨s, step, rfl, hs, hstep⟩ := hi.of_slash hx
      obtain ⟨q, hq, hrenames⟩ := hun.stepped_renames hs hp
      exact ⟨_, q, .stepped hs hstep, hq, hrenames⟩
    · obtain ⟨t, first, last, a, b, rfl, ht, hab, hrenames⟩ := hren.renames_stepped
      cases hss with
      | cons htout hnil =>
        obtain ⟨t', step, rfl, ht', hstep⟩ := hi.of_slash (htout.notMem (.inr rfl))
        cases ht'.unique htout
        obtain ⟨q, hq, hpq⟩ := stepped_renames ht hab hrenames hp
        exact ⟨_, q, .stepped hs hstep, hq, hpq⟩

theorem Renames.append {ps ps' qs qs' : List Progression} (h : Renames ps qs)
    (h' : Renames ps' qs') : Renames (ps ++ ps') (qs ++ qs') := by
  intro day
  simp only [List.any_append, Bool.or_eq_true, or_and_right, exists_or]
  exact or_congr (h day) (h' day)

theorem renumberItems_rename {items : List Item} {ps : List Progression}
    (h : RenumberedItems parts outss)
    (hitems : List.Forall₂ (Item.Spells .weekday) items outss.flatten)
    (hps : items.mapM (Item.progression? .weekday) = some ps) :
    ∃ is qs, List.Forall₂ (Item.Spells .weekday) is parts ∧
      is.mapM Item.weekProgression? = some qs ∧ Renames ps qs := by
  induction h generalizing items ps with
  | nil =>
    cases hitems
    cases hps
    exact ⟨[], [], .nil, rfl, fun day => by simp⟩
  | @cons part outs parts outss hpart _ ih =>
    rw [List.flatten_cons] at hitems
    have hfirst := List.forall₂_take_append items outs outss.flatten hitems
    have hrest := List.forall₂_drop_append items outs outss.flatten hitems
    rw [← List.take_append_drop outs.length items, List.mapM_append] at hps
    simp only [Option.bind_eq_bind, Option.bind_eq_some_iff] at hps
    obtain ⟨ps₁, hps₁, ps₂, hps₂, he⟩ := hps
    cases he
    obtain ⟨i, q, hi, hq, hrenames⟩ := renumberItem_renames hpart hfirst hps₁
    obtain ⟨is, qs, his, hqs, hrenames'⟩ := ih hrest hps₂
    exact ⟨i :: is, q :: qs, .cons hi his, by simp [hq, hqs], hrenames.append hrenames'⟩

/-- A renumbered field stands for the days that the field itself stands for. -/
theorem renumberField_renames {f : Field} (h : renumberField word = .ok text)
    (hword : Solid word) (hchain : word.IsChain Fits) (hf : f.Reads .weekday text) :
    ∃ g : Field, g.ReadsWeek word ∧ Renames f.items g.items := by
  obtain ⟨outss, hparts, hsplit, _⟩ := renumberField_cases h hword hchain
  obtain ⟨items, hitems, hps⟩ := hf
  rw [Spells, hsplit] at hitems
  obtain ⟨is, qs, his, hqs, hrenames⟩ := renumberItems_rename hparts hitems hps
  exact ⟨⟨qs⟩, ⟨is, his, hqs⟩, hrenames⟩

end FeatureFlags.Cron
