import FeatureFlags.Proofs.Feature.Malformed

namespace FeatureFlags

open Time

variable {f : Feature} {reading : Reading} {time : Instant} {s : Schedule}
  {schedules : List Schedule} {action : ScheduleAction}

namespace Schedule

theorem baseline_of_action (hne : schedules ≠ []) (h : ∀ s ∈ schedules, s.action = action) :
    baseline schedules = !action.enables := by
  have hall : schedules.all (·.action == .disable) = (action == .disable) := by
    obtain ⟨s, rest, rfl⟩ := List.exists_cons_of_ne_nil hne
    rw [Bool.eq_iff_iff, List.all_eq_true]
    constructor
    · intro hdisable
      rw [← h s List.mem_cons_self]
      exact hdisable s List.mem_cons_self
    · intro hdisable s' hs'
      rwa [h s' hs']
  rw [baseline, hall, List.isEmpty_eq_false_iff.2 hne]
  cases action <;> rfl

theorem baseline_of_mem_enable (hs : s ∈ schedules) (h : s.action = .enable) :
    baseline schedules = false := by
  have hall : schedules.all (·.action == .disable) = false := by
    rw [List.all_eq_false]
    exact ⟨s, hs, by rw [h]; decide⟩
  rw [baseline, hall, Bool.and_false]

end Schedule

namespace Feature

theorem stateAt_of_action (hon : f.enabled = true) (hne : f.schedules ≠ [])
    (h : ∀ s ∈ f.schedules, s.action = action) :
    f.stateAt reading time =
      (action.enables == f.schedules.any (·.isActive reading f.created time)) := by
  rcases f.stateAt_cases hon hne reading time with ⟨i, s, hs, hstate⟩ | ⟨hnone, hstate⟩
  · have hmem := List.mem_of_getElem? hs.position
    rw [hstate, h s hmem, List.any_eq_true.2 ⟨s, hmem, hs.active⟩]
    cases action <;> rfl
  · have hany : f.schedules.any (·.isActive reading f.created time) = false :=
      List.any_eq_false.2 fun s hs => Bool.eq_false_iff.1 (hnone s hs)
    rw [hstate, Schedule.baseline_of_action hne h, hany]
    cases action <;> rfl

theorem stateAt_perm (hon : f.enabled = true) (hne : f.schedules ≠ [])
    (h : ∀ s ∈ f.schedules, s.action = action) (hperm : schedules.Perm f.schedules) :
    (f.withSchedules schedules).stateAt reading time = f.stateAt reading time := by
  have hne' : schedules ≠ [] := fun hnil => hne (by simpa [hnil] using hperm)
  have h' : ∀ s ∈ schedules, s.action = action := fun s hs => h s (hperm.subset hs)
  rw [stateAt_of_action (f := f) hon hne h, ← hperm.any_eq]
  exact stateAt_of_action (f := f.withSchedules schedules) hon hne' h'

/-- Where all schedules are of one action, the feature is in the state that they are for exactly
while one of them is active, so that their order does not matter. Otherwise the last of the active
schedules decides, and the feature is off while there is none. A schedule that is not active changes
nothing, wherever it is put, unless it changes the baseline. -/
theorem stateAt_by_action (hon : f.enabled = true) (hne : f.schedules ≠ []) (reading : Reading)
    (time : Instant) :
    ((∀ s ∈ f.schedules, s.action = .enable) → (f.stateAt reading time = true ↔
        ∃ s ∈ f.schedules, s.isActive reading f.created time = true)) ∧
      ((∀ s ∈ f.schedules, s.action = .disable) → (f.stateAt reading time = true ↔
        ∀ s ∈ f.schedules, s.isActive reading f.created time = false)) ∧
      (∀ action, (∀ s ∈ f.schedules, s.action = action) →
        ∀ schedules, schedules.Perm f.schedules →
          (f.withSchedules schedules).stateAt reading time = f.stateAt reading time) ∧
      ((∃ s ∈ f.schedules, s.action = .enable) → (∃ s ∈ f.schedules, s.action = .disable) →
        (∃ i s, f.Decisive reading time i s ∧ f.stateAt reading time = s.action.enables) ∨
          (∀ s ∈ f.schedules, s.isActive reading f.created time = false) ∧
            f.stateAt reading time = false) ∧
      ∀ before after m, f.schedules = before ++ after →
        m.isActive reading f.created time = false →
        Schedule.baseline (before ++ m :: after) = Schedule.baseline f.schedules →
        (f.withSchedules (before ++ m :: after)).stateAt reading time = f.stateAt reading time := by
  refine ⟨?_, ?_, ?_, ?_, ?_⟩
  · intro henable
    rw [stateAt_of_action hon hne henable, ← List.any_eq_true]
    exact beq_iff_eq.trans eq_comm
  · intro hdisable
    have hany : f.schedules.any (·.isActive reading f.created time) = false ↔
        ∀ s ∈ f.schedules, s.isActive reading f.created time = false := by
      simp only [List.any_eq_false, Bool.not_eq_true]
    rw [stateAt_of_action hon hne hdisable, ← hany]
    exact beq_iff_eq.trans eq_comm
  · intro action haction schedules hperm
    exact stateAt_perm hon hne haction hperm
  · rintro ⟨s, hs, henable⟩ _
    have hcases := f.stateAt_cases hon hne reading time
    rwa [Schedule.baseline_of_mem_enable hs henable] at hcases
  · intro before after m hschedules hidle hbaseline
    exact stateAt_insert hschedules hne hbaseline hidle

def overlapping (first second : ScheduleAction) : Feature :=
  { Feature.boolean ⟨1⟩ ⟨2⟩ "overlapping" ⟨.ofYear 2011, false, by decide⟩ with
    schedules := [
      .oneShot ⟨3⟩ first (some ⟨.ofYear 2012, false, by decide⟩)
        (some ⟨.ofYear 2014, false, by decide⟩),
      .oneShot ⟨4⟩ second (some ⟨.ofYear 2013, false, by decide⟩)
        (some ⟨.ofYear 2015, false, by decide⟩)] }

def past : Schedule :=
  .oneShot ⟨5⟩ .enable none (some ⟨.ofYear 2012, false, by decide⟩)

theorem stateAt_overlapping :
    let reading := Config.default.reading none
    (overlapping .enable .enable).stateAt reading (.ofYear 2014) = true ∧
      (overlapping .disable .disable).stateAt reading (.ofYear 2016) = true ∧
      ((overlapping .disable .disable).withSchedules
          (overlapping .disable .disable).schedules.reverse).stateAt reading (.ofYear 2013) =
        (overlapping .disable .disable).stateAt reading (.ofYear 2013) ∧
      (∃ i s, (overlapping .disable .enable).Decisive reading (.ofYear 2013) i s ∧
        (overlapping .disable .enable).stateAt reading (.ofYear 2013) = s.action.enables) ∧
      ∃ first second, (overlapping .disable .enable).schedules = [first] ++ [second] ∧
        ((overlapping .disable .enable).withSchedules [first, past, second]).stateAt reading
            (.ofYear 2013) =
          (overlapping .disable .enable).stateAt reading (.ofYear 2013) := by
  intro reading
  have hon (a b : ScheduleAction) : (overlapping a b).enabled = true := rfl
  have hne (a b : ScheduleAction) : (overlapping a b).schedules ≠ [] := List.cons_ne_nil _ _
  obtain ⟨henable, _⟩ :=
    stateAt_by_action (hon .enable .enable) (hne _ _) reading (.ofYear 2014)
  obtain ⟨_, hdisable, _⟩ :=
    stateAt_by_action (hon .disable .disable) (hne _ _) reading (.ofYear 2016)
  obtain ⟨_, _, hperm, _⟩ :=
    stateAt_by_action (hon .disable .disable) (hne _ _) reading (.ofYear 2013)
  obtain ⟨_, _, _, hmixed, hinsert⟩ :=
    stateAt_by_action (hon .disable .enable) (hne _ _) reading (.ofYear 2013)
  refine ⟨(henable (by decide)).2 (by decide), (hdisable (by decide)).2 (by decide),
    hperm .disable (by decide) _ (List.reverse_perm _), ?_,
    _, _, rfl, hinsert [_] [_] past rfl (by decide) (by decide)⟩
  refine (hmixed (by decide) (by decide)).resolve_right ?_
  decide

end Feature

end FeatureFlags
