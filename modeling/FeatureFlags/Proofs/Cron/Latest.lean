import FeatureFlags.Proofs.Cron.Chronology

namespace FeatureFlags.Cron

open Time

namespace Enumeration

variable {firings : Enumeration} {S : Set Instant} {time : Instant} {limit : Nat}

theorem Lists.latest?_eq_none_iff (h : firings.Lists S) :
    firings.latest? time limit = none ↔
      {t ∈ S | t ≤ time} = ∅ ∨ limit < {t ∈ S | t ≤ time}.encard := by
  rw [Option.eq_none_iff_forall_ne_some]
  constructor
  · intro hnone
    by_contra hnot
    rw [not_or, not_lt, ← Ne, ← Set.nonempty_iff_ne_empty] at hnot
    obtain ⟨hne, hfew⟩ := hnot
    obtain ⟨t, ht⟩ := Instant.exists_isGreatest hne hfew
    exact hnone t (h.latest?_eq_some_iff.2 ⟨ht, hfew⟩)
  · intro hcases t ht
    obtain ⟨hgreatest, hfew⟩ := h.latest?_eq_some_iff.1 ht
    rcases hcases with hempty | hmany
    · exact Set.notMem_empty t (hempty ▸ hgreatest.1)
    · exact hfew.not_gt hmany

end Enumeration

namespace Expression

variable {e : Expression} {zone : Zone} {horizon : Instant} {F : Set Instant}

/-- Where the firings after `horizon` come in order, the search finds the greatest of those until
`time` if there are any and no more than `limit`, and else nothing. -/
theorem latest?_isGreatest
    (hF : ∀ n, FirstOf n {t ∈ F | horizon < t} (e.firings zone horizon n)) (time : Instant)
    (limit : Nat) :
    let between : Set Instant := {t ∈ F | horizon < t ∧ t ≤ time}
    (1 ≤ between.encard → between.encard ≤ limit →
        ∃ t, IsGreatest between t ∧ e.latest? zone horizon time limit = some t) ∧
      (between = ∅ ∨ limit < between.encard → e.latest? zone horizon time limit = none) := by
  intro between
  have hlists := lists_of_firstOf hF
  have hbetween : {t ∈ {t ∈ F | horizon < t} | t ≤ time} = between := by
    ext t
    exact and_assoc
  have hnone : e.latest? zone horizon time limit = none ↔
      between = ∅ ∨ limit < between.encard := by
    rw [← hbetween]
    exact hlists.latest?_eq_none_iff
  refine ⟨fun hsome hfew => ?_, hnone.2⟩
  have hfound : e.latest? zone horizon time limit ≠ none := by
    rw [Ne, hnone, not_or, ← Ne, ← Set.nonempty_iff_ne_empty, not_lt]
    exact ⟨Set.one_le_encard_iff_nonempty.1 hsome, hfew⟩
  obtain ⟨t, ht⟩ := Option.ne_none_iff_exists'.1 hfound
  have hgreatest := (hlists.latest?_eq_some_iff.1 ht).1
  rw [hbetween] at hgreatest
  exact ⟨t, hgreatest, ht⟩

theorem latest?_leapThursdays :
    (∀ n, FirstOf n {t ∈ leapThursdays.universalFirings | ⟨1709251199500000000⟩ < t}
        (leapThursdays.firings .utc ⟨1709251199500000000⟩ n)) ∧
      leapThursdays.latest? .utc ⟨1709251199500000000⟩ (.ofYear 2150) 2 =
        some (.ofSeconds 3476390400) ∧
      leapThursdays.latest? .utc ⟨1709251199500000000⟩ (.ofYear 2150) 1 = none := by
  have hyears : leapThursdays.times.years.Within .year := Field.every_within .year
  have hfloor : Instant.ofYear 0 ≤ ⟨1709251199500000000⟩ := by decide
  have hF (n : Nat) := chronological_utc hyears hfloor _ le_rfl n
  have hfirings : leapThursdays.firings .utc ⟨1709251199500000000⟩ 3 =
      [.ofSeconds 2592777600, .ofSeconds 3476390400] := by decide
  have hlength : (leapThursdays.firings .utc ⟨1709251199500000000⟩ 3).length ≤ 2 := by
    rw [hfirings]
    rfl
  have hlast := ((hF 3).getLast?_eq_some_iff (t := .ofSeconds 3476390400) hlength).1 (by
    rw [hfirings]
    rfl)
  have hcard : {t ∈ leapThursdays.universalFirings | ⟨1709251199500000000⟩ < t}.encard = 2 := by
    rw [← (hF 3).eq_of_length_le hlength, (hF 3).encard_eq, hfirings]
    rfl
  have hbetween : {t ∈ leapThursdays.universalFirings |
      ⟨1709251199500000000⟩ < t ∧ t ≤ .ofYear 2150} =
        {t ∈ leapThursdays.universalFirings | ⟨1709251199500000000⟩ < t} := by
    ext t
    refine ⟨fun ht => ⟨ht.1, ht.2.1⟩, fun ht => ⟨ht.1, ht.2, (hlast.2 ht).trans ?_⟩⟩
    decide
  have htwo := latest?_isGreatest hF (.ofYear 2150) 2
  have hone := latest?_isGreatest hF (.ofYear 2150) 1
  simp only [hbetween, hcard] at htwo hone
  refine ⟨hF, ?_, hone.2 (.inr (by decide))⟩
  obtain ⟨t, ht, hlatest⟩ := htwo.1 (by decide) le_rfl
  rw [hlatest, ht.unique hlast]

end Expression

end FeatureFlags.Cron
