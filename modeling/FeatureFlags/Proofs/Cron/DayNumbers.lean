import FeatureFlags.Proofs.Cron.Week

namespace FeatureFlags.Cron

open Weekday

inductive Span.SpellsDays : Span → List Char → Prop
  | star : SpellsDays .all ['*']
  | point {x : List Char} {n : Nat} : Numeral x n → SpellsDays (.point n) x
  | range {x y : List Char} {first last : Nat} : Numeral x first → Numeral y last →
      SpellsDays (.range first last) (x ++ '-' :: y)

inductive Item.SpellsDays : Item → List Char → Prop
  | span {s : Span} {x : List Char} : s.SpellsDays x → SpellsDays (.span s) x
  | stepped {s : Span} {step : Nat} {x y : List Char} : s.SpellsDays x → Numeral y step →
      1 ≤ step → SpellsDays (.stepped s step) (x ++ '/' :: y)

/-- Stars, numbers and ranges of numbers, perhaps with steps, and commas between them. -/
def SpellsDays (items : List Item) (word : List Char) : Prop :=
  List.Forall₂ Item.SpellsDays items (Text.splitAt ',' word)

/-- A span with a number past 7, one that runs backwards, or before a step one that runs up to 7
from another number than 0. -/
def Span.Refused (stepped : Bool) : Span → Prop
  | .point n => 7 < n
  | .range first last =>
    7 < first ∨ 7 < last ∨ last < first ∨ stepped = true ∧ last = 7 ∧ 1 ≤ first
  | _ => False

def Item.Refused : Item → Prop
  | .span s => s.Refused false
  | .stepped s _ => s.Refused true
  | .name _ => False

def Item.step : Item → Nat
  | .stepped _ step => step
  | _ => 1

/-- The days that an item lists, whatever its step, where spans stand for some runs alone and for
others before a step. -/
def Item.days? (alone before : Span → Option (Nat × Nat)) : Item → Option Progression
  | .span s => (alone s).map fun (first, last) => ⟨first, last, 1⟩
  | .stepped s step => (before s).map fun (first, last) => ⟨first, last, step⟩
  | .name _ => none

def Item.calendarDays? : Item → Option Progression :=
  days? (Span.bounds? .weekday) (Span.openBounds? .weekday)

/-- Days from Sunday as 0 to Sunday as 7. -/
def Item.weekDays? : Item → Option Progression := days? Span.weekBounds? Span.openWeekBounds?

variable {x y z part word out text item : List Char} {outs parts texts texts' : List (List Char)}
  {n a b step : Nat} {s t : Span} {ss : List Span} {i j : Item} {items items' is is' : List Item}
  {stepped : Bool} {p : Progression} {days : List Progression}

theorem Numeral.calendarDigits (h : Numeral x n) (hn : n ≤ 7) : Digits x n :=
  h.digits (hn.trans_lt (by decide))

theorem Numeral.unique (h : Numeral x a) (h' : Numeral x b) : a = b := h.value.symm.trans h'.value

theorem Span.SpellsDays.notMem {m : Char} (h : s.SpellsDays x) (hm : m = ',' ∨ m = '/') :
    m ∉ x := by
  have hdigit : m.isDigit = false := by rcases hm with rfl | rfl <;> rfl
  have hdash : m ≠ '-' := by rcases hm with rfl | rfl <;> decide
  cases h with
  | star =>
    rw [List.mem_singleton]
    rcases hm with rfl | rfl <;> decide
  | point hx => exact hx.notMem hdigit
  | range hx hy =>
    rw [List.mem_append, List.mem_cons, not_or, not_or]
    exact ⟨hx.notMem hdigit, hdash, hy.notMem hdigit⟩

theorem Item.SpellsDays.notMem_comma (h : i.SpellsDays x) : ',' ∉ x := by
  cases h with
  | span hs => exact hs.notMem (.inl rfl)
  | stepped hs hy =>
    rw [List.mem_append, List.mem_cons, not_or, not_or]
    exact ⟨hs.notMem (.inl rfl), by decide, hy.notMem rfl⟩

theorem Numeral.not_wild (h : Numeral x n) : ¬ (x = ['*'] ∨ x = ['?']) := by
  rintro (rfl | rfl) <;> cases h.all _ List.mem_cons_self

theorem range_not_wild : ¬ (x ++ '-' :: y = ['*'] ∨ x ++ '-' :: y = ['?']) := by
  have hdash : '-' ∈ x ++ '-' :: y := List.mem_append_right x List.mem_cons_self
  rintro (hstar | hany)
  · rw [hstar] at hdash
    cases List.mem_singleton.1 hdash
  · rw [hany] at hdash
    cases List.mem_singleton.1 hdash

theorem Span.SpellsDays.unique (hs : s.SpellsDays x) (ht : t.SpellsDays x) : s = t := by
  cases hs with
  | star =>
    generalize hz : ['*'] = z at ht
    cases ht with
    | star => rfl
    | point hx => exact absurd (.inl hz.symm) hx.not_wild
    | range => exact absurd (.inl hz.symm) range_not_wild
  | point hx =>
    cases ht with
    | star => exact absurd (.inl rfl) hx.not_wild
    | point hy => rw [hx.unique hy]
    | range => exact absurd (List.mem_append_right _ List.mem_cons_self) (hx.notMem (m := '-') rfl)
  | range hx hy =>
    generalize hz : _ ++ '-' :: _ = z at ht
    cases ht with
    | star => exact absurd (.inl hz) range_not_wild
    | point hx' =>
      rw [← hz] at hx'
      exact absurd (List.mem_append_right _ List.mem_cons_self) (hx'.notMem (m := '-') rfl)
    | range hx' hy' =>
      obtain ⟨rfl, _, rfl⟩ := (List.append_cons_inj_of_notMem (hx.notMem rfl) (hy.notMem rfl)).1 hz
      rw [hx.unique hx', hy.unique hy']

theorem Item.SpellsDays.unique (hi : i.SpellsDays x) (hj : j.SpellsDays x) : i = j := by
  cases hi with
  | span hs =>
    cases hj with
    | span ht => rw [hs.unique ht]
    | stepped =>
      exact absurd (List.mem_append_right _ List.mem_cons_self) (hs.notMem (.inr rfl))
  | stepped hs hy =>
    generalize hz : _ ++ '/' :: _ = z at hj
    cases hj with
    | span ht =>
      rw [← hz] at ht
      exact absurd (List.mem_append_right _ List.mem_cons_self) (ht.notMem (.inr rfl))
    | stepped ht hy' =>
      obtain ⟨rfl, _, rfl⟩ :=
        (List.append_cons_inj_of_notMem (hs.notMem (.inr rfl)) (hy.notMem rfl)).1 hz
      rw [hs.unique ht, hy.unique hy']

theorem SpellsDays.unique (h : SpellsDays items word) (h' : SpellsDays items' word) :
    items = items' :=
  List.left_unique_forall₂' (fun _ _ _ hi hj => hi.unique hj) h h'

/-- Renumbering ends with an error about days of the week if it is refused, and else with a result
of a kind. -/
inductive Outcome {α : Type} (refused : Prop) (P : α → Prop) : Except Error α → Prop
  | error {text : String} : refused → Outcome refused P (.error (.weekday text))
  | ok {a : α} : ¬ refused → P a → Outcome refused P (.ok a)

namespace Outcome

variable {α β : Type} {refused refused' : Prop} {P : α → Prop} {Q : β → Prop}
  {result : Except Error α} {f : α → Except Error β}

theorem error_iff (h : Outcome refused P result) :
    (∃ text, result = .error (.weekday text)) ↔ refused := by
  cases h with
  | @error text hrefused => exact ⟨fun _ => hrefused, fun _ => ⟨text, rfl⟩⟩
  | ok hnot _ =>
    constructor
    · rintro ⟨_, heq⟩
      cases heq
    · intro hrefused
      exact absurd hrefused hnot

theorem exists_ok (h : Outcome refused P result) (hnot : ¬ refused) :
    ∃ a, result = .ok a ∧ P a := by
  cases h with
  | error hrefused => exact absurd hrefused hnot
  | ok _ ha => exact ⟨_, rfl, ha⟩

theorem bind (h : Outcome refused P result)
    (hf : ∀ a, P a → Outcome refused' Q (f a)) : Outcome (refused ∨ refused') Q (result >>= f) := by
  cases h with
  | error hrefused => exact .error (.inl hrefused)
  | @ok a hnot ha =>
    change Outcome _ Q (f a)
    generalize hresult : f a = result'
    have h' := hf a ha
    rw [hresult] at h'
    cases h' with
    | error hrefused' => exact .error (.inr hrefused')
    | ok hnot' hb => exact .ok (not_or.2 ⟨hnot, hnot'⟩) hb

theorem bind_ok (h : Outcome refused P result) (hf : ∀ a, P a → ∃ b, f a = .ok b ∧ Q b) :
    Outcome refused Q (result >>= f) := by
  have h' : Outcome (refused ∨ False) Q (result >>= f) := by
    apply h.bind
    intro a ha
    obtain ⟨b, heq, hb⟩ := hf a ha
    rw [heq]
    exact .ok not_false hb
  rwa [or_false] at h'

theorem imp {P' : α → Prop} (h : Outcome refused P result) (himp : ∀ a, P a → P' a) :
    Outcome refused P' result := by
  cases h with
  | error hrefused => exact .error hrefused
  | ok hnot ha => exact .ok hnot (himp _ ha)

end Outcome

inductive Kept : Bool → Span → List Span → Prop
  | star {stepped : Bool} : Kept stepped .all [.all]
  | numbers {stepped : Bool} {s : Span} {ss : List Span} : Renumbered stepped s ss →
      Kept stepped s ss

theorem spellsDays_of_renumbered (h : Renumbered stepped s ss)
    (hss : List.Forall₂ (Span.Spells .weekday) ss outs) :
    List.Forall₂ Span.SpellsDays ss outs := by
  have hpoint {n : Nat} {x : List Char} (hx : (Span.point n).Spells .weekday x) :
      (Span.point n).SpellsDays x := by
    cases hx with
    | point hx => exact .point hx.numeral
  have hrange {a b : Nat} {x : List Char} (hx : (Span.range a b).Spells .weekday x) :
      (Span.range a b).SpellsDays x := by
    cases hx with
    | range hx hy => exact .range hx.numeral hy.numeral
  cases h with
  | day | sunday =>
    cases hss with
    | cons hx hnil =>
      cases hnil
      exact .cons (hpoint hx) .nil
  | range | week =>
    cases hss with
    | cons hx hnil =>
      cases hnil
      exact .cons (hrange hx) .nil
  | wrapped =>
    cases hss with
    | cons hx hrest =>
      cases hrest with
      | cons hy hnil =>
        cases hnil
        exact .cons (hrange hx) (.cons (hpoint hy) .nil)

theorem renumberRange_outcome (hx : Numeral x a) (hy : Numeral y b) (ha : a ≤ 7) (hb : b ≤ 7) :
    Outcome ((Span.range a b).Refused stepped)
      (fun outs => ∃ ss, List.Forall₂ Span.SpellsDays ss outs ∧ Kept stepped (.range a b) ss)
      (renumberRange a b stepped item) := by
  cases hresult : renumberRange a b stepped item with
  | error e =>
    rw [renumberRange] at hresult
    split at hresult
    · next hlt =>
      cases hresult
      exact .error (.inr (.inr (.inl hlt)))
    split at hresult
    · cases hresult
    next hwrap =>
    split at hresult
    · next hstep =>
      cases hresult
      exact .error (.inr (.inr (.inr ⟨hstep, by omega, by omega⟩)))
    split at hresult <;> cases hresult
  | ok outs =>
    have hx' : Digits x a := hx.calendarDigits ha
    have hy' : Digits y b := hy.calendarDigits hb
    obtain ⟨s, ss, hs, hss, hren⟩ := renumberRange_cases hx' hy' hb hresult
    cases hs.unique (.range hx' hy')
    refine .ok ?_ ⟨ss, spellsDays_of_renumbered hren hss, .numbers hren⟩
    rintro (hlt | hlt | hlt | ⟨rfl, rfl, hlt⟩)
    · omega
    · omega
    · cases hren <;> omega
    · cases hren <;> omega

theorem Span.SpellsDays.renumberSpan_outcome (h : s.SpellsDays x) :
    Outcome (s.Refused stepped)
      (fun outs => ∃ ss, List.Forall₂ Span.SpellsDays ss outs ∧ Kept stepped s ss)
      (renumberSpan x stepped item) := by
  cases h with
  | star => exact .ok not_false ⟨[.all], .cons .star .nil, .star⟩
  | @point x n hx =>
    have hcut : Text.cutAt? '-' x = none := Text.cutAt?_eq_none_iff.2 (hx.notMem rfl)
    by_cases hn : n ≤ 7
    · have heq : renumberSpan x stepped item = .ok [Weekday.digits (renumber n)] := by
        rw [renumberSpan, if_neg hx.not_wild, hcut, hx.number?_eq, if_pos hn]
        rfl
      rw [heq]
      exact .ok (not_lt.2 hn) ⟨_, .cons (.point (digits_renumber hn).numeral) .nil,
        .numbers (.day hn)⟩
    · have heq : renumberSpan x stepped item = .error (.weekday (String.ofList x)) := by
        rw [renumberSpan, if_neg hx.not_wild, hcut, hx.number?_eq, if_neg hn]
        rfl
      rw [heq]
      exact .error (not_le.1 hn)
  | @range x y a b hx hy =>
    have hcut : Text.cutAt? '-' (x ++ '-' :: y) = some (x, y) :=
      Text.cutAt?_eq_some_iff.2 ⟨rfl, hx.notMem rfl⟩
    by_cases ha : a ≤ 7
    · by_cases hb : b ≤ 7
      · have heq : renumberSpan (x ++ '-' :: y) stepped item = renumberRange a b stepped item := by
          simp only [renumberSpan, if_neg range_not_wild, hcut, hx.number?_eq, hy.number?_eq,
            if_pos ha, if_pos hb]
          rfl
        rw [heq]
        exact renumberRange_outcome hx hy ha hb
      · have heq : renumberSpan (x ++ '-' :: y) stepped item =
            .error (.weekday (String.ofList y)) := by
          simp only [renumberSpan, if_neg range_not_wild, hcut, hx.number?_eq, hy.number?_eq,
            if_pos ha, if_neg hb]
          rfl
        rw [heq]
        exact .error (.inr (.inl (not_le.1 hb)))
    · have heq : renumberSpan (x ++ '-' :: y) stepped item =
          .error (.weekday (String.ofList x)) := by
        simp only [renumberSpan, if_neg range_not_wild, hcut, hx.number?_eq, if_neg ha]
        rfl
      rw [heq]
      exact .error (.inl (not_le.1 ha))

theorem progression?_span (s : Span) :
    (Item.span s).progression? .weekday = (Item.span s).calendarDays? := by
  cases hs : s.bounds? .weekday with
  | none => simp [Item.progression?, Item.calendarDays?, Item.days?, hs]
  | some bounds => simp [Item.progression?, Item.calendarDays?, Item.days?, hs]

theorem weekProgression?_span (s : Span) :
    (Item.span s).weekProgression? = (Item.span s).weekDays? := by
  cases hs : s.weekBounds? with
  | none => simp [Item.weekProgression?, Item.weekDays?, Item.days?, hs]
  | some bounds => simp [Item.weekProgression?, Item.weekDays?, Item.days?, hs]

theorem Kept.renames (h : Kept false s ss) :
    ∃ days q, (ss.map Item.span).mapM Item.calendarDays? = some days ∧
      (Item.span s).weekDays? = some q ∧ Renames days [q] := by
  cases h with
  | star => exact ⟨_, _, rfl, rfl, renames_week 1⟩
  | numbers hren =>
    obtain ⟨days, q, hdays, hq, hrenames⟩ := hren.renames
    refine ⟨days, q, ?_, ?_, hrenames⟩
    · rw [List.mapM_map] at hdays ⊢
      rw [← hdays]
      exact congrArg (List.mapM · ss) (funext fun t => (progression?_span t).symm)
    · rw [← weekProgression?_span, hq]

theorem Kept.renames_stepped (h : Kept true s ss) (step : Nat) :
    ∃ t p q, ss = [t] ∧ (Item.stepped t step).calendarDays? = some p ∧
      (Item.stepped s step).weekDays? = some q ∧ Renames [p] [q] := by
  cases h with
  | star => exact ⟨_, _, _, rfl, rfl, rfl, renames_week step⟩
  | numbers hren =>
    obtain ⟨t, first, last, a, b, hss, ht, hs, hrenames⟩ := hren.renames_stepped
    refine ⟨t, ⟨first, last, step⟩, ⟨a, b, step⟩, hss, ?_, ?_, hrenames step⟩
    · rw [Item.calendarDays?, Item.days?, ht, Option.map_some]
    · rw [Item.weekDays?, Item.days?, hs, Option.map_some]

/-- Items of people's days and what becomes of them and their texts. -/
structure Moved (items renumbered : List Item) (texts : List (List Char)) : Prop where
  spelled : List.Forall₂ Item.SpellsDays renumbered texts
  ne_nil : items ≠ [] → texts ≠ []
  step : (∀ i ∈ items, i.step ≤ 7) → ∀ i ∈ renumbered, i.step ≤ 7
  renames : ∃ days week, renumbered.mapM Item.calendarDays? = some days ∧
    items.mapM Item.weekDays? = some week ∧ Renames days week

theorem Moved.append (h : Moved items is texts) (h' : Moved items' is' texts') :
    Moved (items ++ items') (is ++ is') (texts ++ texts') where
  spelled := List.rel_append h.spelled h'.spelled
  ne_nil hne := by
    rw [Ne, List.append_eq_nil_iff, not_and_or] at hne ⊢
    exact hne.imp h.ne_nil h'.ne_nil
  step hstep := by
    rw [List.forall_mem_append] at hstep ⊢
    exact ⟨h.step hstep.1, h'.step hstep.2⟩
  renames := by
    obtain ⟨days, week, hdays, hweek, hrenames⟩ := h.renames
    obtain ⟨days', week', hdays', hweek', hrenames'⟩ := h'.renames
    refine ⟨days ++ days', week ++ week', ?_, ?_, hrenames.append hrenames'⟩
    · simp [List.mapM_append, hdays, hdays']
    · simp [List.mapM_append, hweek, hweek']

theorem Item.SpellsDays.renumberItem_outcome (h : i.SpellsDays part) :
    Outcome i.Refused (fun outs => ∃ is, Moved [i] is outs) (renumberItem part) := by
  cases h with
  | @span s x hs =>
    have heq : renumberItem part = renumberSpan part false part := by
      rw [renumberItem, Text.cutAt?_eq_none_iff.2 (hs.notMem (.inr rfl))]
    rw [heq]
    apply hs.renumberSpan_outcome.imp
    rintro outs ⟨ss, hss, hkept⟩
    obtain ⟨days, q, hdays, hq, hrenames⟩ := hkept.renames
    refine ⟨ss.map .span, ?_, ?_, ?_, days, [q], hdays, ?_, hrenames⟩
    · exact List.forall₂_map_left_iff.2 (hss.imp fun _ _ ht => .span ht)
    · rintro - rfl
      cases hss
      rcases hkept with _ | hren
      cases hren
    · intro _ j hj
      obtain ⟨t, _, rfl⟩ := List.mem_map.1 hj
      exact Nat.le_of_ble_eq_true rfl
    · simp [hq]
  | @stepped s step x y hs hy hpos =>
    rw [renumberItem, Text.cutAt?_eq_some_iff.2 ⟨rfl, hs.notMem (.inr rfl)⟩]
    apply hs.renumberSpan_outcome.bind_ok
    rintro outs ⟨ss, hss, hkept⟩
    obtain ⟨t, p, q, rfl, hp, hq, hrenames⟩ := hkept.renames_stepped step
    cases hss with
    | @cons _ out _ _ ht hnil =>
      cases hnil
      refine ⟨_, rfl, [.stepped t step], ?_, ?_, ?_, [p], [q], ?_, ?_, hrenames⟩
      · exact .cons (.stepped ht hy hpos) .nil
      · exact fun _ => List.cons_ne_nil _ _
      · intro hstep j hj
        cases List.mem_singleton.1 hj
        exact hstep (.stepped s step) List.mem_cons_self
      · simp [hp]
      · simp [hq]

theorem renumberItems_outcome (h : List.Forall₂ Item.SpellsDays items parts) :
    Outcome (∃ i ∈ items, i.Refused) (fun outss => ∃ is, Moved items is outss.flatten)
      (parts.mapM renumberItem) := by
  induction h with
  | nil =>
    rw [List.mapM_nil]
    refine .ok (by simp) ⟨[], .nil, fun hne => absurd rfl hne, ?_, [], [], rfl, rfl, ?_⟩
    · exact fun _ _ hi => absurd hi List.not_mem_nil
    · exact fun day => by simp
  | @cons i part items parts hi _ ih =>
    rw [List.mapM_cons, List.exists_mem_cons_iff]
    apply hi.renumberItem_outcome.bind
    rintro outs ⟨is, his⟩
    apply ih.bind_ok
    rintro outss ⟨is', his'⟩
    exact ⟨_, rfl, _, his.append his'⟩

theorem Span.openBounds?_isSome (u : CalendarUnit) (s : Span) :
    (s.openBounds? u).isSome = (s.bounds? u).isSome := by
  cases s with
  | point n => by_cases h : u.admits n = true <;> simp [openBounds?, bounds?, h]
  | all | range | namedRange => rfl

theorem Span.SpellsDays.spells (h : s.SpellsDays x) (hs : (s.bounds? .weekday).isSome = true) :
    s.Spells .weekday x := by
  obtain ⟨bounds, hs⟩ := Option.isSome_iff_exists.1 hs
  cases h with
  | star => exact .star
  | point hx =>
    obtain ⟨hn, _⟩ := Option.ite_none_right_eq_some.1 hs
    exact .point (hx.calendarDigits (CalendarUnit.admits_iff.1 hn).2)
  | range hx hy =>
    obtain ⟨⟨hfirst, hlast, _⟩, _⟩ := Option.ite_none_right_eq_some.1 hs
    exact .range (hx.calendarDigits (CalendarUnit.admits_iff.1 hfirst).2)
      (hy.calendarDigits (CalendarUnit.admits_iff.1 hlast).2)

theorem Item.SpellsDays.spells (h : i.SpellsDays x) (hdays : i.calendarDays? = some p)
    (hstep : i.step ≤ 7) : i.Spells .weekday x ∧ i.progression? .weekday = some p := by
  cases h with
  | @span s _ hs =>
    have hsome : (s.bounds? .weekday).isSome = true := by
      obtain ⟨_, hbounds, _⟩ := Option.map_eq_some_iff.1 hdays
      rw [hbounds, Option.isSome_some]
    exact ⟨.span (hs.spells hsome), (progression?_span s).trans hdays⟩
  | @stepped s step x y hs hy hpos =>
    obtain ⟨⟨first, last⟩, hbounds, rfl⟩ := Option.map_eq_some_iff.1 hdays
    have hsome : (s.bounds? .weekday).isSome = true := by
      rw [← Span.openBounds?_isSome, hbounds, Option.isSome_some]
    refine ⟨.stepped (hs.spells hsome) (hy.calendarDigits hstep), ?_⟩
    simp only [Item.progression?, hbounds]
    exact if_pos ⟨hpos, hstep⟩

theorem SpellsDays.reads (h : SpellsDays items word)
    (hdays : items.mapM Item.calendarDays? = some days) (hstep : ∀ i ∈ items, i.step ≤ 7) :
    Field.Reads .weekday ⟨days⟩ word := by
  suffices hitems : Spells .weekday items word ∧
      items.mapM (Item.progression? .weekday) = some days from ⟨items, hitems⟩
  rw [SpellsDays] at h
  rw [Spells]
  generalize Text.splitAt ',' word = parts at h ⊢
  induction h generalizing days with
  | nil => exact ⟨.nil, hdays⟩
  | @cons i part items parts hi _ ih =>
    rw [List.mapM_cons] at hdays ⊢
    simp only [Option.bind_eq_bind, Option.bind_eq_some_iff] at hdays
    obtain ⟨p, hp, rest, hrest, he⟩ := hdays
    obtain ⟨hspells, hread⟩ := hi.spells hp (hstep i List.mem_cons_self)
    obtain ⟨hparts, hreads⟩ := ih hrest fun j hj => hstep j (List.mem_cons_of_mem i hj)
    refine ⟨.cons hspells hparts, ?_⟩
    simp only [hread, hreads, Option.bind_eq_bind, Option.bind_some]
    exact he

/-- A field of numbered days is refused for one of its items or renumbered, and then the one reading
of the new text lists the same days. -/
theorem renumberField_days (h : SpellsDays items word) :
    ((∃ text, renumberField word = .error (.weekday text)) ↔ ∃ i ∈ items, i.Refused) ∧
      ((∀ i ∈ items, ¬ i.Refused) → ∃ text renumbered days week,
        renumberField word = .ok text ∧ (∀ is, SpellsDays is text ↔ is = renumbered) ∧
          renumbered.mapM Item.calendarDays? = some days ∧
          items.mapM Item.weekDays? = some week ∧ Renames days week ∧
          ((∀ i ∈ items, i.step ≤ 7) →
            Grammar.fieldAt .weekday text = some (⟨days⟩, []))) := by
  have hfield : Outcome (∃ i ∈ items, i.Refused)
      (fun text => ∃ is, SpellsDays is text ∧
        ((∀ i ∈ items, i.step ≤ 7) → ∀ i ∈ is, i.step ≤ 7) ∧
        ∃ days week, is.mapM Item.calendarDays? = some days ∧
          items.mapM Item.weekDays? = some week ∧ Renames days week)
      (renumberField word) := by
    apply (renumberItems_outcome h).bind_ok
    rintro outss ⟨is, his⟩
    have hitems : items ≠ [] := by
      rintro rfl
      exact Text.splitAt_ne_nil ',' word (List.forall₂_nil_left_iff.1 h)
    have hsplit : Text.splitAt ',' (Text.joinWith ',' outss.flatten) = outss.flatten := by
      apply Text.splitAt_joinWith (his.ne_nil hitems)
      intro out hout
      obtain ⟨j, _, hj⟩ := exists_of_mem_right his.spelled hout
      exact hj.notMem_comma
    refine ⟨_, rfl, is, ?_, his.step, his.renames⟩
    rw [SpellsDays, hsplit]
    exact his.spelled
  refine ⟨hfield.error_iff, fun hnone => ?_⟩
  obtain ⟨text, heq, is, htext, hstep, days, week, hdays, hweek, hrenames⟩ :=
    hfield.exists_ok fun ⟨i, hi, hrefused⟩ => hnone i hi hrefused
  refine ⟨text, is, days, week, heq, fun is' => ⟨fun h' => h'.unique htext, ?_⟩, hdays, hweek,
    hrenames, fun hsmall => (htext.reads hdays (hstep hsmall)).fieldAt⟩
  rintro rfl
  exact htext

def longWeekend : List Item := [.span (.range 5 7), .stepped (.point 1) 2]

theorem longWeekend_spelled : SpellsDays longWeekend "05-7,1/2".toList := by
  have hfirst : Numeral ['0', '5'] 5 := ⟨List.cons_ne_nil _ _, List.all_eq_true.1 rfl, rfl⟩
  have hlast : Numeral ['7'] 7 := ⟨List.cons_ne_nil _ _, List.all_eq_true.1 rfl, rfl⟩
  have hone : Numeral ['1'] 1 := ⟨List.cons_ne_nil _ _, List.all_eq_true.1 rfl, rfl⟩
  have htwo : Numeral ['2'] 2 := ⟨List.cons_ne_nil _ _, List.all_eq_true.1 rfl, rfl⟩
  exact .cons (.span (.range hfirst hlast)) (.cons (.stepped (.point hone) htwo (by decide)) .nil)

theorem longWeekend_renumbered : SpellsDays longWeekend "05-7,1/2".toList ∧
    renumberField "05-7,1/2".toList = .ok "6-7,1,2/2".toList ∧
      Renames [⟨6, 7, 1⟩, ⟨1, 1, 1⟩, ⟨2, 7, 2⟩] [⟨5, 7, 1⟩, ⟨1, 6, 2⟩] ∧
        Grammar.fieldAt .weekday "6-7,1,2/2".toList =
          some (⟨[⟨6, 7, 1⟩, ⟨1, 1, 1⟩, ⟨2, 7, 2⟩]⟩, []) := by
  have hnone : ∀ i ∈ longWeekend, ¬ i.Refused := by
    simp [longWeekend, Item.Refused, Span.Refused]
  have hstep : ∀ i ∈ longWeekend, i.step ≤ 7 := by
    simp [longWeekend, Item.step]
  obtain ⟨text, renumbered, days, week, heq, _, _, hweek, hrenames, hread⟩ :=
    (renumberField_days longWeekend_spelled).2 hnone
  have htext : renumberField "05-7,1/2".toList = .ok "6-7,1,2/2".toList := rfl
  obtain rfl : "6-7,1,2/2".toList = text := by simpa using htext.symm.trans heq
  have hfield : Grammar.fieldAt .weekday "6-7,1,2/2".toList =
      some (⟨[⟨6, 7, 1⟩, ⟨1, 1, 1⟩, ⟨2, 7, 2⟩]⟩, []) := rfl
  have hdays := hfield.symm.trans (hread hstep)
  cases hdays
  cases hweek
  exact ⟨longWeekend_spelled, htext, hrenames, hfield⟩

end FeatureFlags.Cron
