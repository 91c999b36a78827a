import FeatureFlags.Cron.Times
import FeatureFlags.Proofs.Cron.Spelling
import Mathlib.Data.List.DropRight

namespace FeatureFlags.Cron

variable {α β : Type} {u : CalendarUnit} {w t x r s : List Char} {c m : Char}

/-- The word `w` and the text `t` after it, with no mark on either side of the gap. -/
structure Within (w t : List Char) : Prop where
  chain : w.IsChain Fits
  solid : ∀ c ∈ w, Grammar.isGap c = false
  last : t ≠ [] → ∃ c, w.getLast? = some c ∧ isMark c = false
  gap : ∀ c ∈ t.head?, Grammar.isGap c = true
  next : ∀ c ∈ (Grammar.skipGap t).head?, isMark c = false

/-- A reading of `w ++ t` took `x` from the front of `w`, stopped before `r` and left `s`. -/
structure Takes (w t x r s : List Char) : Prop where
  split : w = x ++ r
  stops : ∀ c ∈ r.head?, isMark c = true
  left : s = r ++ t ∨ r = [] ∧ s = Grammar.skipGap t

def Local (read : List Char → Option (α × List Char)) (P : α → List Char → Prop) : Prop :=
  ∀ ⦃w t a s⦄, Within w t → read (w ++ t) = some (a, s) → ∃ x r, P a x ∧ Takes w t x r s

theorem isGap_of_isMark (h : isMark c = true) : Grammar.isGap c = false := by
  simp only [isMark, Bool.or_eq_true, decide_eq_true_eq] at h
  rcases h with (rfl | rfl) | rfl <;> rfl

theorem Within.eq_nil (h : Within [] t) : t = [] := by
  by_contra hne
  obtain ⟨c, hc, _⟩ := h.last hne
  cases hc

theorem Within.suffix (h : Within (x ++ m :: r) t) (hm : isMark m = true) : Within r t where
  chain := (List.isChain_append.1 h.chain).2.1.of_cons
  solid c hc := h.solid c (by simp [hc])
  last ht := by
    obtain ⟨c, hc, hmark⟩ := h.last ht
    rw [List.getLast?_append_of_ne_nil _ (List.cons_ne_nil _ _)] at hc
    cases r with
    | nil =>
      obtain rfl : m = c := by simpa using hc
      rw [hm] at hmark
      cases hmark
    | cons d r =>
      rw [List.getLast?_cons_cons] at hc
      exact ⟨c, hc, hmark⟩
  gap := h.gap
  next := h.next

theorem Within.skipGap (h : Within w t) (hne : w ≠ []) : Grammar.skipGap (w ++ t) = w ++ t := by
  apply skipGap_of_head
  intro c hc
  rw [List.head?_append_of_ne_nil _ hne] at hc
  exact h.solid c (List.mem_of_mem_head? hc)

theorem Takes.mark {rest : List Char} (h : Takes w t x r s) (hw : Within w t)
    (hm : isMark m = true) (hs : Grammar.markAt m s = some rest) :
    ∃ r', r = m :: r' ∧ rest = r' ++ t ∧ Within r' t := by
  have hhead : s = m :: rest := by
    cases s with
    | nil => cases hs
    | cons c s =>
      rw [Grammar.markAt, Option.ite_none_right_eq_some, Option.some.injEq] at hs
      rw [hs.1, hs.2]
  cases r with
  | nil =>
    -- the word is used up, and neither the gap nor the word after it starts with a mark
    rcases h.left with hleft | ⟨_, hleft⟩
    · have hgap := hw.gap m (by rw [← List.nil_append t, ← hleft, hhead]; rfl)
      rw [isGap_of_isMark hm] at hgap
      cases hgap
    · have hmark := hw.next m (by rw [← hleft, hhead]; rfl)
      rw [hm] at hmark
      cases hmark
  | cons c r =>
    rcases h.left with hleft | ⟨hnil, _⟩
    · rw [hhead, List.cons_append, List.cons.injEq] at hleft
      obtain ⟨rfl, hrest⟩ := hleft
      have hsuffix := hw
      rw [h.split] at hsuffix
      exact ⟨r, rfl, hrest, hsuffix.suffix hm⟩
    · cases hnil

theorem Local.joined {p : List Char → Option (α × List Char)} {P : α → List Char → Prop}
    {q : List Char → Option (β × List Char)} {Q : β → List Char → Prop} {a : α} {b : β}
    {rest after : List Char} (hp : Local p P) (hq : Local q Q) (hw : Within w t)
    (hm : isMark m = true) (ha : p (w ++ t) = some (a, s)) (hs : Grammar.markAt m s = some rest)
    (hb : q rest = some (b, after)) :
    ∃ x y r, P a x ∧ Q b y ∧ Takes w t (x ++ m :: y) r after := by
  obtain ⟨x, r, hx, htakes⟩ := hp hw ha
  obtain ⟨r', rfl, rfl, hw'⟩ := htakes.mark hw hm hs
  obtain ⟨y, r, hy, hrest⟩ := hq hw' hb
  refine ⟨x, y, r, hx, hy, ?_, hrest.stops, hrest.left⟩
  rw [htakes.split, hrest.split, List.append_assoc, List.cons_append]

theorem Within.takeWhile {p : Char → Bool} (hw : Within w t) (hp : Operand p)
    (hne : (Grammar.skipGap (w ++ t)).takeWhile p ≠ []) :
    ∃ r, Takes w t ((Grammar.skipGap (w ++ t)).takeWhile p) r
      (Grammar.skipGap ((Grammar.skipGap (w ++ t)).dropWhile p)) := by
  have hwne : w ≠ [] := by
    rintro rfl
    rw [hw.eq_nil] at hne
    exact hne rfl
  rw [hw.skipGap hwne] at hne ⊢
  obtain ⟨x, r, rfl, hx, hr⟩ : ∃ x r, w = x ++ r ∧ (∀ c ∈ x, p c = true) ∧
      ∀ c ∈ r.head?, p c = false := by
    refine ⟨w.takeWhile p, w.dropWhile p, List.takeWhile_append_dropWhile.symm,
      fun c hc => List.mem_takeWhile_imp hc, fun c hc => ?_⟩
    have h := List.head?_dropWhile_not p w
    rw [hc] at h
    simpa using h
  have hends : ∀ c ∈ (r ++ t).head?, p c = false := by
    intro c hc
    cases r with
    | nil => exact hp.gap c (hw.gap c hc)
    | cons d r => exact hr c hc
  obtain ⟨htake, hdrop⟩ := Text.takeWhile_append_of_head hx hends
  rw [List.append_assoc, htake] at hne ⊢
  rw [hdrop]
  refine ⟨r, rfl, fun b hb => ?_, ?_⟩
  · have ha : x.getLast hne ∈ x.getLast? := List.getLast?_eq_some_getLast hne
    have hfits := (List.isChain_append.1 hw.chain).2.2 _ ha _ hb
    exact hp.isMark_of_fits (hx _ (List.getLast_mem hne)) (hr b hb) hfits
  · cases r with
    | nil => exact .inr ⟨rfl, rfl⟩
    | cons b r => exact .inl (skipGap_of_head fun c hc => hw.solid c (by cases hc; simp))

theorem numberAt_local : Local Grammar.numberAt fun n x => Digits x n := by
  intro w t n s hw h
  simp only [Grammar.numberAt, Option.ite_none_left_eq_some, not_or, not_le, List.isEmpty_iff,
    Option.some.injEq, Prod.mk.injEq] at h
  obtain ⟨⟨hne, hsmall⟩, rfl, rfl⟩ := h
  obtain ⟨r, htakes⟩ := hw.takeWhile operand_isDigit hne
  exact ⟨_, r, ⟨hne, fun c hc => List.mem_takeWhile_imp hc, rfl, hsmall⟩, htakes⟩

theorem nameAt_local : Local Grammar.nameAt fun name x => x = name ∧ Letters x := by
  intro w t name s hw h
  simp only [Grammar.nameAt, Option.ite_none_left_eq_some, List.isEmpty_iff,
    Option.some.injEq, Prod.mk.injEq] at h
  obtain ⟨hne, rfl, rfl⟩ := h
  obtain ⟨r, htakes⟩ := hw.takeWhile operand_isAlpha hne
  exact ⟨_, r, ⟨rfl, hne, fun c hc => List.mem_takeWhile_imp hc⟩, htakes⟩

theorem Within.wildcard (hw : Within w t) (hm : m = '*' ∨ m = '?')
    (h : Grammar.markAt m (w ++ t) = some s) : ∃ r, Takes w t [m] r s := by
  cases w with
  | nil =>
    rw [hw.eq_nil] at h
    cases h
  | cons c r =>
    rw [List.cons_append, Grammar.markAt, Option.ite_none_right_eq_some, Option.some.injEq] at h
    obtain ⟨rfl, rfl⟩ := h
    refine ⟨r, rfl, fun b hb => ?_, .inl rfl⟩
    have hfits := (List.isChain_cons.1 hw.chain).1 b hb
    rcases hm with rfl | rfl <;> simpa [Fits, isMark] using hfits

theorem spanAt_local (u : CalendarUnit) : Local (Grammar.spanAt u) (Span.Spells u) := by
  intro w t span s hw h
  simp only [Grammar.spanAt, Option.orElse_eq_orElse, Option.orElse_eq_or, Option.or_eq_some_iff,
    Option.map_eq_some_iff, Option.bind_eq_bind, Option.bind_eq_some_iff,
    Option.ite_none_right_eq_some] at h
  rcases h with ⟨_, ⟨hu, hany⟩, he⟩ | ⟨_, ⟨_, hstar, he⟩ | ⟨_, h⟩⟩
  · cases he
    obtain ⟨r, htakes⟩ := hw.wildcard (.inr rfl) hany
    exact ⟨_, r, .any hu, htakes⟩
  · cases he
    obtain ⟨r, htakes⟩ := hw.wildcard (.inl rfl) hstar
    exact ⟨_, r, .star, htakes⟩
  rcases h with ⟨⟨first, _⟩, hfirst, _, hdash, ⟨last, _⟩, hlast, he⟩ | ⟨_, h⟩
  · cases he
    obtain ⟨x, y, r, hx, hy, htakes⟩ :=
      numberAt_local.joined numberAt_local hw rfl hfirst hdash hlast
    exact ⟨_, r, .range hx hy, htakes⟩
  rcases h with ⟨⟨n, _⟩, hn, he⟩ | ⟨_, ⟨first, _⟩, hfirst, _, hdash, ⟨last, _⟩, hlast, he⟩
  · cases he
    obtain ⟨x, r, hx, htakes⟩ := numberAt_local hw hn
    exact ⟨x, r, .point hx, htakes⟩
  · cases he
    obtain ⟨_, _, r, ⟨rfl, hx⟩, ⟨rfl, hy⟩, htakes⟩ :=
      nameAt_local.joined nameAt_local hw rfl hfirst hdash hlast
    exact ⟨_, r, .namedRange hx hy, htakes⟩

theorem itemAt_local (u : CalendarUnit) : Local (Grammar.itemAt u) (Item.Spells u) := by
  intro w t item s hw h
  simp only [Grammar.itemAt, Option.orElse_eq_orElse, Option.orElse_eq_or, Option.or_eq_some_iff,
    Option.map_eq_some_iff, Option.bind_eq_bind, Option.bind_eq_some_iff] at h
  rcases h with ⟨⟨span, _⟩, hspan, _, hslash, ⟨step, _⟩, hstep, he⟩ | ⟨_, h⟩
  · cases he
    obtain ⟨x, y, r, hx, hy, htakes⟩ :=
      (spanAt_local u).joined numberAt_local hw rfl hspan hslash hstep
    exact ⟨_, r, .stepped hx hy, htakes⟩
  rcases h with ⟨⟨span, _⟩, hspan, he⟩ | ⟨_, ⟨name, _⟩, hname, he⟩
  · cases he
    obtain ⟨x, r, hx, htakes⟩ := spanAt_local u hw hspan
    exact ⟨x, r, .span hx, htakes⟩
  · cases he
    obtain ⟨_, r, ⟨rfl, hx⟩, htakes⟩ := nameAt_local hw hname
    exact ⟨_, r, .name hx, htakes⟩

theorem itemsAt_local (u : CalendarUnit) (fuel : Nat) :
    Local (Grammar.itemsAt u fuel) (Spells u) := by
  induction fuel with
  | zero =>
    intro w t items s _ h
    cases h
  | succ fuel ih =>
    intro w t items s hw h
    simp only [Grammar.itemsAt, Option.bind_eq_bind, Option.bind_eq_some_iff] at h
    obtain ⟨⟨item, _⟩, hitem, h⟩ := h
    split at h
    · next hmore =>
      cases h
      obtain ⟨_, hcomma, hitems⟩ := Option.bind_eq_some_iff.1 hmore
      obtain ⟨x, y, r, hx, hy, htakes⟩ := (itemAt_local u).joined ih hw rfl hitem hcomma hitems
      refine ⟨_, r, ?_, htakes⟩
      rw [Spells, Text.splitAt_append hx.notMem_comma]
      exact .cons hx hy
    · cases h
      obtain ⟨x, r, hx, htakes⟩ := itemAt_local u hw hitem
      refine ⟨x, r, ?_, htakes⟩
      rw [Spells, Text.splitAt_of_notMem hx.notMem_comma]
      exact .cons hx .nil

/-- A field read at a word is the word, or the reading stopped before a mark. -/
theorem fieldAt_word {f : Field} (hw : Within w t) (hne : w ≠ [])
    (h : Grammar.fieldAt u (w ++ t) = some (f, s)) :
    f.Reads u w ∧ s = Grammar.skipGap t ∨ ∃ m ∈ s.head?, isMark m = true := by
  simp only [Grammar.fieldAt, Option.bind_eq_bind, Option.bind_eq_some_iff, hw.skipGap hne] at h
  obtain ⟨⟨items, rest⟩, hitems, progressions, hprogressions, he⟩ := h
  cases he
  obtain ⟨x, r, hx, htakes⟩ := itemsAt_local u _ hw hitems
  cases r with
  | nil =>
    obtain rfl : w = x := by rw [htakes.split, List.append_nil]
    refine .inl ⟨⟨items, hx, hprogressions⟩, ?_⟩
    rcases htakes.left with hleft | ⟨_, hleft⟩
    · rw [hleft, List.nil_append]
    · rw [hleft]
      exact List.dropWhile_idempotent _ t
  | cons m r =>
    have hm := htakes.stops m rfl
    refine .inr ⟨m, ?_, hm⟩
    rcases htakes.left with hleft | ⟨hnil, _⟩
    · rw [hleft, skipGap_of_head fun c hc => by cases hc; exact isGap_of_isMark hm]
      rfl
    · cases hnil

theorem fieldAt_of_mark (hm : isMark m = true) : Grammar.fieldAt u (m :: s) = none := by
  have hgap : Grammar.skipGap (m :: s) = m :: s :=
    skipGap_of_head fun c hc => by cases hc; exact isGap_of_isMark hm
  have hwild : m ≠ '?' ∧ m ≠ '*' := by
    constructor <;> (rintro rfl; cases hm)
  have hdigit := operand_isDigit.mark m hm
  have halpha := operand_isAlpha.mark m hm
  simp [Grammar.fieldAt, Grammar.itemsAt, Grammar.itemAt, Grammar.spanAt, Grammar.numberAt,
    Grammar.nameAt, Grammar.markAt, hgap, hdigit, halpha, hwild]

def Opens (s : List Char) : Prop :=
  ∃ c ∈ s.head?, Grammar.isGap c = false ∧ isMark c = false

theorem Separated.opens (h : Separated w) (hne : w ≠ [])
    (hsolid : ∀ c ∈ w, Grammar.isGap c = false) : Opens w := by
  have hhead : w.head hne ∈ w.head? := List.head?_eq_some_head hne
  exact ⟨_, hhead, hsolid _ (List.head_mem hne), h.head _ hhead⟩

theorem Opens.ne_nil (h : Opens s) : s ≠ [] := by
  rintro rfl
  obtain ⟨c, hc, _⟩ := h
  cases hc

theorem Opens.append (h : Opens w) : Opens (w ++ s) := by
  obtain ⟨c, hc, hsolid⟩ := h
  refine ⟨c, ?_, hsolid⟩
  rw [List.head?_append, hc, Option.some_or]
  rfl

theorem Opens.skipGap (h : Opens s) : Grammar.skipGap (' ' :: s) = s := by
  obtain ⟨c, hc, hsolid, _⟩ := h
  refine (List.dropWhile_cons_of_pos rfl).trans (skipGap_of_head fun d hd => ?_)
  cases hc.symm.trans hd
  exact hsolid

structure Solid (w : List Char) : Prop where
  opens : Opens w
  solid : ∀ c ∈ w, Grammar.isGap c = false

theorem fieldAt_then {v : CalendarUnit} {f g : Field} {rest after : List Char}
    (hsep : Separated w) (hsolid : Solid w) (hs : Opens s)
    (hf : Grammar.fieldAt u (w ++ ' ' :: s) = some (f, rest))
    (hg : Grammar.fieldAt v rest = some (g, after)) : f.Reads u w ∧ rest = s := by
  have hne := hsolid.opens.ne_nil
  have hw : Within w (' ' :: s) := by
    refine ⟨hsep.chain, hsolid.solid, fun _ => ?_, by simp; rfl, ?_⟩
    · exact ⟨w.getLast hne, List.getLast?_eq_some_getLast hne,
        hsep.last _ (List.getLast?_eq_some_getLast hne)⟩
    · rw [hs.skipGap]
      obtain ⟨c, hc, _, hmark⟩ := hs
      intro d hd
      cases hc.symm.trans hd
      exact hmark
  rcases fieldAt_word hw hne hf with ⟨hreads, hrest⟩ | ⟨m, hm, hmark⟩
  · rw [hs.skipGap] at hrest
    exact ⟨hreads, hrest⟩
  · cases rest with
    | nil => cases hm
    | cons c rest =>
      cases hm
      rw [fieldAt_of_mark hmark] at hg
      cases hg

theorem reads_zero : (Field.just 0).Reads .second ['0'] := by
  exact ⟨[.span (.point 0)], .cons (.span (.point (digits_singleton rfl))) .nil, rfl⟩

/-- Five words without marks at their ends are one field each. -/
theorem Times.parse?_words {times : Times} {minute hour day month weekday : List Char}
    (h : Times.parse? (Text.joinWith ' ' [['0'], minute, hour, day, month, weekday]) = some times)
    (hsep : ∀ w ∈ [minute, hour, day, month], Separated w)
    (hsolid : ∀ w ∈ [minute, hour, day, month, weekday], Solid w)
    (hweekday : weekday.IsChain Fits) :
    times.seconds = .just 0 ∧ times.minutes.Reads .minute minute ∧ times.hours.Reads .hour hour ∧
      times.days.Reads .day day ∧ times.months.Reads .month month ∧
      times.weekdays.Reads .weekday weekday ∧ times.years = .every .year := by
  simp only [List.forall_mem_cons] at hsep hsolid
  obtain ⟨hminute, hhour, hday, hmonth, _⟩ := hsep
  obtain ⟨sminute, shour, sday, smonth, sweekday, _⟩ := hsolid
  simp only [Times.parse?, Text.joinWith, Option.bind_eq_bind, Option.bind_eq_some_iff] at h
  obtain ⟨⟨seconds, _⟩, hseconds, ⟨minutes, _⟩, hminutes, ⟨hours, _⟩, hhours, ⟨days, _⟩, hdays,
    ⟨months, _⟩, hmonths, ⟨weekdays, rest⟩, hweekdays, h⟩ := h
  have szero : Solid ['0'] := ⟨⟨'0', rfl, rfl, rfl⟩, List.forall_mem_singleton.2 rfl⟩
  obtain ⟨rseconds, rfl⟩ := fieldAt_then (by decide) szero sminute.opens.append hseconds hminutes
  obtain ⟨rminutes, rfl⟩ := fieldAt_then hminute sminute shour.opens.append hminutes hhours
  obtain ⟨rhours, rfl⟩ := fieldAt_then hhour shour sday.opens.append hhours hdays
  obtain ⟨rdays, rfl⟩ := fieldAt_then hday sday smonth.opens.append hdays hmonths
  obtain ⟨rmonths, hrest⟩ := fieldAt_then hmonth smonth sweekday.opens hmonths hweekdays
  have hlast : Within weekday [] :=
    ⟨hweekday, sweekday.solid, fun h => absurd rfl h, by simp, by simp⟩
  dsimp only at hweekdays
  rw [hrest, ← List.append_nil weekday] at hweekdays
  rcases fieldAt_word hlast sweekday.opens.ne_nil hweekdays with ⟨rweekdays, rfl⟩ | ⟨m, hm, hmark⟩
  · cases h
    exact ⟨rseconds.unique reads_zero, rminutes, rhours, rdays, rmonths, rweekdays, rfl⟩
  · cases rest with
    | nil => cases hm
    | cons c rest =>
      -- the year would have to start with a mark
      cases hm
      simp [fieldAt_of_mark hmark] at h

end FeatureFlags.Cron
