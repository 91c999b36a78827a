import FeatureFlags.Proofs.Cron.Week

namespace FeatureFlags.Cron

open Time

structure FiveFields where
  minutes : Field
  hours : Field
  days : Field
  months : Field
  /-- From Sunday as 0 to Sunday as 7. -/
  weekdays : Field

namespace FiveFields

def Reads (five : FiveFields) : List (List Char) → Prop
  | [minute, hour, day, month, weekday] =>
    five.minutes.Reads .minute minute ∧ five.hours.Reads .hour hour ∧
      five.days.Reads .day day ∧ five.months.Reads .month month ∧ five.weekdays.ReadsWeek weekday
  | _ => False

/-- The clock shows a full minute of the years that there are and the fields hold the rest. -/
structure Holds (five : FiveFields) (c : ClockTime) : Prop where
  year : 1970 ≤ c.year ∧ c.year ≤ 2100
  second : c.second = 0
  minute : five.minutes.contains c.minute = true
  hour : five.hours.contains c.hour = true
  day : five.days.contains c.day = true
  month : five.months.contains c.month = true
  weekday : ∃ d, five.weekdays.contains d = true ∧ d % 7 + 1 = c.weekday

end FiveFields

variable {text : String} {e : Expression} {five : FiveFields} {word s : List Char}

theorem Field.Reads.separated {f : Field} {u : CalendarUnit} (h : f.Reads u word) :
    Separated word := by
  obtain ⟨items, hitems, _⟩ := h
  exact hitems.separated

theorem Field.ReadsWeek.separated {f : Field} (h : f.ReadsWeek word) : Separated word := by
  obtain ⟨items, hitems, _⟩ := h
  exact hitems.separated

theorem FiveFields.Reads.separated {words : List (List Char)} (h : five.Reads words) :
    ∀ word ∈ words, Separated word := by
  match words, h with
  | [minute, hour, day, month, weekday], ⟨hminute, hhour, hday, hmonth, hweekday⟩ =>
    simp only [List.forall_mem_cons]
    exact ⟨hminute.separated, hhour.separated, hday.separated, hmonth.separated,
      hweekday.separated, by simp⟩

theorem isBlank_of_isGap {c : Char} (h : Grammar.isGap c = true) : Text.isBlank c = true := by
  simp only [Grammar.isGap, Bool.or_eq_true, decide_eq_true_eq] at h
  rcases h with ((rfl | rfl) | rfl) | rfl <;> rfl

theorem solid_of_mem_words (hword : word ∈ Text.words s) (hsep : Separated word) :
    Solid word := by
  obtain ⟨hne, hblank⟩ := Text.mem_words hword
  have hsolid : ∀ c ∈ word, Grammar.isGap c = false := by
    intro c hc
    by_contra hgap
    have := isBlank_of_isGap (eq_true_of_ne_false hgap)
    rw [hblank c hc] at this
    cases this
  exact ⟨hsep.opens hne hsolid, hsolid⟩

namespace Expression

theorem parse_cases (h : parse text = .ok e)
    (hat : (Text.trimChars text.toList).head? ≠ some '@') :
    ∃ minute hour day month weekday renumbered,
      Text.words (Text.trimChars text.toList) = [minute, hour, day, month, weekday] ∧
      Weekday.renumberField weekday = .ok renumbered ∧
      Times.parse? (Text.joinWith ' ' [['0'], minute, hour, day, month, renumbered]) =
        some e.times := by
  simp only [parse, if_neg hat, bind, Except.bind] at h
  cases hnormalize : normalize (Text.trimChars text.toList) with
  | error =>
    rw [hnormalize] at h
    cases h
  | ok normal =>
    rw [hnormalize] at h
    simp only [Functor.map, Except.map] at h
    cases htimes : Times.parse? normal with
    | none =>
      rw [htimes] at h
      cases h
    | some times =>
      rw [htimes] at h
      cases h
      simp only [normalize, bind, Except.bind, pure, Except.pure] at hnormalize
      split at hnormalize
      · next minute hour day month weekday hwords =>
        cases hweekday : Weekday.renumberField weekday with
        | error => simp [hweekday] at hnormalize
        | ok renumbered =>
          rw [hweekday] at hnormalize
          cases hnormalize
          exact ⟨_, _, _, _, _, _, hwords, hweekday, htimes⟩
      · cases hnormalize

theorem exists_reads (h : parse text = .ok e)
    (hat : (Text.trimChars text.toList).head? ≠ some '@')
    (hsep : ∀ word ∈ Text.words (Text.trimChars text.toList), Separated word) :
    ∃ five : FiveFields, five.Reads (Text.words (Text.trimChars text.toList)) ∧
      e.times.seconds = .just 0 ∧ e.times.minutes = five.minutes ∧ e.times.hours = five.hours ∧
      e.times.days = five.days ∧ e.times.months = five.months ∧
      Renames e.times.weekdays.items five.weekdays.items ∧ e.times.years = .every .year := by
  obtain ⟨minute, hour, day, month, weekday, renumbered, hwords, hweekday, htimes⟩ :=
    parse_cases h hat
  have hsolid : ∀ word ∈ [minute, hour, day, month, weekday], Solid word := by
    rw [← hwords]
    exact fun word hword => solid_of_mem_words hword (hsep word hword)
  rw [hwords] at hsep ⊢
  simp only [List.forall_mem_cons] at hsep hsolid
  obtain ⟨hminute, hhour, hday, hmonth, hlast, _⟩ := hsep
  obtain ⟨sminute, shour, sday, smonth, slast, _⟩ := hsolid
  obtain ⟨outss, _, _, srenumbered, hrenumbered⟩ := renumberField_cases hweekday slast hlast.chain
  obtain ⟨rseconds, rminutes, rhours, rdays, rmonths, rweekdays, ryears⟩ :=
    Times.parse?_words htimes
      (by simp only [List.forall_mem_cons]; exact ⟨hminute, hhour, hday, hmonth, by simp⟩)
      (by simp only [List.forall_mem_cons]
          exact ⟨sminute, shour, sday, smonth, srenumbered, by simp⟩)
      hrenumbered
  obtain ⟨week, hweek, hrenames⟩ := renumberField_renames hweekday slast hlast.chain rweekdays
  exact ⟨⟨e.times.minutes, e.times.hours, e.times.days, e.times.months, week⟩,
    ⟨rminutes, rhours, rdays, rmonths, hweek⟩, rseconds, rfl, rfl, rfl, rfl, hrenames, ryears⟩

theorem contains_every_year {n : Nat} :
    (Field.every .year).contains n = true ↔ 1970 ≤ n ∧ n ≤ 2100 := by
  simp [Field.every, Field.contains, contains_mk_iff, CalendarUnit.least, CalendarUnit.greatest,
    Nat.mod_one]

/-- An accepted text is by itself the five fields of its words exactly if none of these has a mark
at an end or two operands side by side. -/
theorem fiveFields_iff_separated (h : parse text = .ok e)
    (hat : (Text.trimChars text.toList).head? ≠ some '@') :
    (∃ five : FiveFields, five.Reads (Text.words (Text.trimChars text.toList)) ∧
        ∀ t, e.fires t = true ↔ five.Holds t.clock) ↔
      ∀ word ∈ Text.words (Text.trimChars text.toList), Separated word := by
  constructor
  · rintro ⟨five, hreads, _⟩
    exact hreads.separated
  · intro hsep
    obtain ⟨five, hreads, hseconds, hminutes, hhours, hdays, hmonths, hweekdays, hyears⟩ :=
      exists_reads h hat hsep
    refine ⟨five, hreads, fun t => ?_⟩
    have hweekday := hweekdays t.clock.weekday
    simp only [fires, Times.contains, hseconds, hminutes, hhours, hdays, hmonths, hyears,
      Bool.and_eq_true, decide_eq_true_eq, Field.contains_just_iff, contains_every_year]
    constructor
    · rintro ⟨⟨⟨⟨⟨⟨⟨_, hyear⟩, hmonth⟩, hday⟩, hweek⟩, hhour⟩, hminute⟩, hsecond⟩
      exact ⟨by omega, hsecond, hminute, hhour, hday, hmonth, hweekday.1 hweek⟩
    · rintro ⟨hyear, hsecond, hminute, hhour, hday, hmonth, hweek⟩
      exact ⟨⟨⟨⟨⟨⟨⟨by omega, by omega⟩, hmonth⟩, hday⟩, hweekday.2 hweek⟩, hhour⟩, hminute⟩,
        hsecond⟩

def longWeekends : Expression :=
  ⟨"*/20 8-17/3 1,15 mar-OCT 5-7", ⟨.just 0, ⟨[⟨0, 59, 20⟩]⟩, ⟨[⟨8, 17, 3⟩]⟩,
    ⟨[⟨1, 1, 1⟩, ⟨15, 15, 1⟩]⟩, ⟨[⟨3, 10, 1⟩]⟩, ⟨[⟨6, 7, 1⟩, ⟨1, 1, 1⟩]⟩, .every .year⟩⟩

theorem longWeekends_fiveFields :
    parse "*/20 8-17/3 1,15 mar-OCT 5-7" = .ok longWeekends ∧
      (Text.trimChars "*/20 8-17/3 1,15 mar-OCT 5-7".toList).head? ≠ some '@' ∧
      ∃ five : FiveFields,
        five.Reads (Text.words (Text.trimChars "*/20 8-17/3 1,15 mar-OCT 5-7".toList)) ∧
        ∀ t, longWeekends.fires t = true ↔ five.Holds t.clock := by
  have hparse : parse "*/20 8-17/3 1,15 mar-OCT 5-7" = .ok longWeekends := by decide
  have hat : (Text.trimChars "*/20 8-17/3 1,15 mar-OCT 5-7".toList).head? ≠ some '@' := by decide
  exact ⟨hparse, hat, (fiveFields_iff_separated hparse hat).2 (by decide)⟩

def mondays2026 : Expression :=
  ⟨"0 0 * * MON2026", ⟨.just 0, .just 0, .just 0, .every .day, .every .month, .just 2,
    .just 2026⟩⟩

/-- The last word is a day of the week and a year. -/
theorem mondays2026_not_fiveFields :
    parse "0 0 * * MON2026" = .ok mondays2026 ∧
      (Text.trimChars "0 0 * * MON2026".toList).head? ≠ some '@' ∧
      ¬ ∃ five : FiveFields, five.Reads (Text.words (Text.trimChars "0 0 * * MON2026".toList)) := by
  refine ⟨by decide, by decide, ?_⟩
  rintro ⟨five, hreads⟩
  exact absurd hreads.separated (by decide)

end Expression

end FeatureFlags.Cron
