import FeatureFlags.Cron.Expression

namespace FeatureFlags.Cron

/-- All values of the field are values of the unit. -/
def Field.Within (u : CalendarUnit) (f : Field) : Prop :=
  ∀ n, f.contains n = true → u.least ≤ n ∧ n ≤ u.greatest

variable {u : CalendarUnit} {n : Nat}

@[simp] theorem Field.contains_just_iff {m : Nat} : (Field.just m).contains n = true ↔ n = m := by
  simp only [just, contains, Progression.contains, List.any_cons, List.any_nil, Bool.or_false,
    Nat.mod_one, BEq.rfl, Bool.and_true, Bool.and_eq_true, decide_eq_true_eq]
  omega

theorem CalendarUnit.admits_iff : u.admits n = true ↔ u.least ≤ n ∧ n ≤ u.greatest := by
  simp [admits]

theorem CalendarUnit.length_names :
    u.names.length = 0 ∨ u.least + u.names.length = u.greatest + 1 := by
  cases u <;> simp [names, least, greatest]

theorem CalendarUnit.named?_range {name : List Char} (h : u.named? name = some n) :
    u.least ≤ n ∧ n ≤ u.greatest := by
  obtain ⟨i, hi, rfl⟩ := Option.map_eq_some_iff.1 h
  obtain ⟨hlt, _⟩ := List.findIdx?_eq_some_iff_getElem.1 hi
  have := u.length_names
  omega

theorem Span.bounds?_range {s : Span} {first last : Nat} (h : s.bounds? u = some (first, last)) :
    u.least ≤ first ∧ last ≤ u.greatest := by
  cases s with
  | all =>
    cases h
    exact ⟨Nat.le_refl _, Nat.le_refl _⟩
  | point m =>
    simp only [bounds?, Option.ite_none_right_eq_some, Option.some.injEq, Prod.mk.injEq] at h
    obtain ⟨hm, rfl, rfl⟩ := h
    exact CalendarUnit.admits_iff.1 hm
  | range a b =>
    simp only [bounds?, Option.ite_none_right_eq_some, Option.some.injEq, Prod.mk.injEq] at h
    obtain ⟨⟨ha, hb, _⟩, rfl, rfl⟩ := h
    exact ⟨(CalendarUnit.admits_iff.1 ha).1, (CalendarUnit.admits_iff.1 hb).2⟩
  | namedRange a b =>
    simp only [bounds?, Option.bind_eq_bind, Option.bind_eq_some_iff,
      Option.ite_none_right_eq_some, Option.some.injEq, Prod.mk.injEq] at h
    obtain ⟨a', ha, b', hb, _, rfl, rfl⟩ := h
    exact ⟨(CalendarUnit.named?_range ha).1, (CalendarUnit.named?_range hb).2⟩

theorem Span.openBounds?_range {s : Span} {first last : Nat}
    (h : s.openBounds? u = some (first, last)) : u.least ≤ first ∧ last ≤ u.greatest := by
  cases s with
  | point m =>
    simp only [openBounds?, Option.ite_none_right_eq_some, Option.some.injEq, Prod.mk.injEq] at h
    obtain ⟨hm, rfl, rfl⟩ := h
    exact ⟨(CalendarUnit.admits_iff.1 hm).1, Nat.le_refl _⟩
  | all | range | namedRange =>
    simp only [openBounds?] at h
    exact bounds?_range h

theorem Item.progression?_range {i : Item} {p : Progression} (h : i.progression? u = some p) :
    u.least ≤ p.first ∧ p.last ≤ u.greatest := by
  cases i with
  | span s =>
    simp only [progression?, Option.bind_eq_bind, Option.bind_eq_some_iff] at h
    obtain ⟨⟨first, last⟩, hs, he⟩ := h
    cases he
    exact Span.bounds?_range hs
  | stepped s step =>
    simp only [progression?, Option.bind_eq_bind, Option.bind_eq_some_iff,
      Option.ite_none_right_eq_some, Option.some.injEq] at h
    obtain ⟨⟨first, last⟩, hs, _, rfl⟩ := h
    exact Span.openBounds?_range hs
  | name name =>
    simp only [progression?, Option.bind_eq_bind, Option.bind_eq_some_iff] at h
    obtain ⟨m, hm, he⟩ := h
    cases he
    exact CalendarUnit.named?_range hm

theorem Field.within_of_items {f : Field}
    (h : ∀ p ∈ f.items, u.least ≤ p.first ∧ p.last ≤ u.greatest) : f.Within u := by
  intro n hn
  obtain ⟨p, hp, hc⟩ := List.any_eq_true.1 hn
  simp only [Progression.contains, Bool.and_eq_true, decide_eq_true_eq] at hc
  have := h p hp
  omega

theorem Field.every_within (u : CalendarUnit) : (Field.every u).Within u :=
  within_of_items (by simp [every])

theorem mem_of_mapM {α β : Type} {f : α → Option β} {l : List α} {bs : List β} {b : β}
    (h : l.mapM f = some bs) (hb : b ∈ bs) : ∃ a ∈ l, f a = some b := by
  induction l generalizing bs with
  | nil =>
    cases h
    cases hb
  | cons a l ih =>
    simp only [List.mapM_cons, Option.bind_eq_bind, Option.bind_eq_some_iff, Option.pure_def,
      Option.some.injEq] at h
    obtain ⟨b', hb', bs', hbs', rfl⟩ := h
    rcases List.mem_cons.1 hb with rfl | hb
    · exact ⟨a, List.mem_cons_self, hb'⟩
    · obtain ⟨a', ha', hf⟩ := ih hbs' hb
      exact ⟨a', List.mem_cons_of_mem _ ha', hf⟩

theorem Grammar.fieldAt_within {s rest : List Char} {f : Field}
    (h : Grammar.fieldAt u s = some (f, rest)) : f.Within u := by
  simp only [fieldAt, Option.bind_eq_bind, Option.bind_eq_some_iff] at h
  obtain ⟨⟨items, s'⟩, _, ps, hps, he⟩ := h
  cases he
  apply Field.within_of_items
  intro p hp
  obtain ⟨i, _, hi⟩ := mem_of_mapM hps hp
  exact Item.progression?_range hi

theorem Times.parse?_years {s : List Char} {t : Times} (h : Times.parse? s = some t) :
    t.years.Within .year := by
  simp only [parse?, Option.bind_eq_bind, Option.bind_eq_some_iff] at h
  obtain ⟨_, _, _, _, _, _, _, _, _, _, ⟨weekdays, s'⟩, _, h⟩ := h
  cases s' with
  | nil =>
    cases h
    exact Field.every_within .year
  | cons c s' =>
    simp only [Option.bind_eq_some_iff, Option.ite_none_right_eq_some, Option.some.injEq] at h
    obtain ⟨⟨years, rest⟩, hy, _, rfl⟩ := h
    exact Grammar.fieldAt_within hy

theorem Times.shorthand?_years {word : List Char} {t : Times} (h : Times.shorthand? word = some t) :
    t.years.Within .year := by
  simp only [shorthand?] at h
  split at h
  case h_6 => cases h
  all_goals
    cases h
    exact Field.every_within .year

theorem Times.year_le {t : Times} {c : Time.ClockTime} (ht : t.years.Within .year)
    (hc : t.contains c = true) : c.year ≤ CalendarUnit.year.greatest := by
  simp only [contains, Bool.and_eq_true, decide_eq_true_eq] at hc
  obtain ⟨⟨⟨⟨⟨⟨⟨hy, hyc⟩, _⟩, _⟩, _⟩, _⟩, _⟩, _⟩ := hc
  have := (ht _ hyc).2
  omega

theorem Expression.parse_years {text : String} {e : Expression}
    (h : Expression.parse text = .ok e) : e.times.years.Within .year := by
  simp only [parse, bind, Except.bind] at h
  split at h
  · cases ht : Times.shorthand? (Text.trimChars text.toList) with
    | none =>
      rw [ht] at h
      cases h
    | some t =>
      rw [ht] at h
      cases h
      exact Times.shorthand?_years ht
  · cases hn : normalize (Text.trimChars text.toList) with
    | error =>
      rw [hn] at h
      cases h
    | ok s =>
      rw [hn] at h
      simp only [Functor.map, Except.map] at h
      cases ht : Times.parse? s with
      | none =>
        rw [ht] at h
        cases h
      | some t =>
        rw [ht] at h
        cases h
        exact Times.parse?_years ht

end FeatureFlags.Cron
