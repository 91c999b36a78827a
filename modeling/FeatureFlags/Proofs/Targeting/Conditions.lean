import FeatureFlags.Targeting.Condition

namespace FeatureFlags.Targeting.Expression

variable {c d : Context}

mutual

/-- The conditions in an expression, at any depth. -/
def conditions : Expression → List Condition
  | always => []
  | condition c => [c]
  | group _ children => conditionsOf children

def conditionsOf : List Expression → List Condition
  | [] => []
  | e :: rest => e.conditions ++ conditionsOf rest

end

mutual

theorem holds_congr (e : Expression)
    (h : ∀ condition ∈ e.conditions, condition.holds c = condition.holds d) :
    e.holds c = e.holds d := by
  cases e with
  | always => rfl
  | condition condition =>
    rw [holds, holds]
    exact h condition List.mem_cons_self
  | group operator children =>
    rw [conditions] at h
    cases operator with
    | and => rw [holds, holds, (all_any_congr children h).1]
    | or => rw [holds, holds, (all_any_congr children h).2]
    | andNot =>
      cases children with
      | nil => rfl
      | cons first rest =>
        simp only [conditionsOf, List.mem_append] at h
        rw [holds, holds, holds_congr first fun condition hmem => h condition (.inl hmem),
          (all_any_congr rest fun condition hmem => h condition (.inr hmem)).2]

theorem all_any_congr (children : List Expression)
    (h : ∀ condition ∈ conditionsOf children, condition.holds c = condition.holds d) :
    allHold c children = allHold d children ∧ anyHolds c children = anyHolds d children := by
  cases children with
  | nil => exact ⟨rfl, rfl⟩
  | cons e rest =>
    simp only [conditionsOf, List.mem_append] at h
    have hfirst := holds_congr e fun condition hmem => h condition (.inl hmem)
    obtain ⟨hall, hany⟩ := all_any_congr rest fun condition hmem => h condition (.inr hmem)
    rw [allHold, allHold, anyHolds, anyHolds, hfirst, hall, hany]
    exact ⟨rfl, rfl⟩

end

end FeatureFlags.Targeting.Expression
