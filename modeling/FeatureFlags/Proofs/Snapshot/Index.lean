import FeatureFlags.Snapshot
import Mathlib.Data.List.Nodup
import Mathlib.Data.List.Sort

namespace FeatureFlags

namespace Map

variable {ν α : Type} [LE ν] [LT ν] [DecidableEq ν] [Std.LawfulOrderLT ν] {m m' : Map ν α}
  {name : ν} {value : α}

theorem get?_eq_some_iff : m.get? name = some value ↔ (name, value) ∈ m.entries :=
  ⟨Fields.mem_of_get?_eq_some, m.ordered.get?_of_mem⟩

theorem ext_get? [Std.IsLinearOrder ν] (h : ∀ name, m.get? name = m'.get? name) : m = m' := by
  have hmem (p : ν × α) : p ∈ m.entries ↔ p ∈ m'.entries := by
    rw [← get?_eq_some_iff, ← get?_eq_some_iff, h]
  have hirrefl : Std.Irrefl fun a b : ν × α => a.1 < b.1 := ⟨fun a => Std.lt_irrefl⟩
  have hantisymm : Std.Antisymm fun a b : ν × α => a.1 < b.1 :=
    ⟨fun a b hab hba => absurd (Std.lt_trans hab hba) Std.lt_irrefl⟩
  have hentries : m.entries = m'.entries := m.ordered.eq_of_mem_iff m'.ordered hmem
  cases m
  cases m'
  cases hentries
  rfl

end Map

namespace Snapshot

open Time

variable {s s' : Snapshot} {f g : Feature} {features before after : List Feature} {config : Config}
  {project : Uuid} {key : String} {context : Context} {time : Instant}

/-- The last feature with a project and a key. -/
def latest? (features : List Feature) (project : Uuid) (key : String) : Option Feature :=
  features.reverse.find? fun f => f.address == (project, key)

theorem latest?_append (before after : List Feature) :
    latest? (before ++ after) project key =
      (latest? after project key).or (latest? before project key) := by
  rw [latest?, List.reverse_append, List.find?_append]
  rfl

theorem latest?_cons (f : Feature) (after : List Feature) :
    latest? (f :: after) project key =
      (latest? after project key).or (if f.address = (project, key) then some f else none) := by
  rw [← List.singleton_append, latest?_append]
  simp [latest?]

theorem latest?_eq_some_iff :
    latest? features project key = some f ↔ ∃ before after, features = before ++ f :: after ∧
      f.address = (project, key) ∧ ∀ g ∈ after, g.address ≠ (project, key) := by
  rw [latest?, List.find?_eq_some_iff_append, beq_iff_eq]
  constructor
  · rintro ⟨haddress, later, earlier, heq, hlater⟩
    refine ⟨earlier.reverse, later.reverse, ?_, haddress, fun g hg => ?_⟩
    · rw [List.reverse_eq_iff.1 heq]
      simp
    · simpa using hlater g (List.mem_reverse.1 hg)
  · rintro ⟨before, after, rfl, haddress, hafter⟩
    refine ⟨haddress, after.reverse, before.reverse, by simp, fun g hg => ?_⟩
    simpa using hafter g (List.mem_reverse.1 hg)

theorem latest?_eq_none_iff :
    latest? features project key = none ↔ (project, key) ∉ features.map Feature.address := by
  simp only [latest?, List.find?_eq_none, List.mem_reverse, beq_iff_eq, List.mem_map, not_exists,
    not_and]

theorem latest?_eq_some_iff_of_nodup (h : (features.map Feature.address).Nodup) :
    latest? features project key = some f ↔ f ∈ features ∧ f.address = (project, key) := by
  rw [latest?_eq_some_iff]
  constructor
  · rintro ⟨before, after, rfl, haddress, _⟩
    exact ⟨by simp, haddress⟩
  · rintro ⟨hf, haddress⟩
    obtain ⟨before, after, rfl⟩ := List.append_of_mem hf
    rw [List.map_append, List.nodup_append, List.map_cons, List.nodup_cons] at h
    refine ⟨before, after, rfl, haddress, fun g hg heq => h.2.1.1 ?_⟩
    exact List.mem_map.2 ⟨g, hg, heq.trans haddress.symm⟩

theorem get?_foldl_insert (s : Snapshot) (features : List Feature) :
    (features.foldl insert s).get? project key =
      (latest? features project key).or (s.get? project key) := by
  induction features generalizing s with
  | nil => rfl
  | cons f features ih =>
    rw [List.foldl_cons, ih, get?_insert, latest?_cons]
    split
    · cases latest? features project key <;> rfl
    · rw [Option.or_none]

theorem get?_ofFeatures (features : List Feature) :
    (ofFeatures features).get? project key = latest? features project key := by
  rw [ofFeatures, get?_foldl_insert]
  exact Option.or_none

/-- All features, project by project. -/
def contents (s : Snapshot) : List Feature := s.projects.values.flatMap Map.values

theorem mem_contents_iff :
    f ∈ s.contents ↔ ∃ p ∈ s.projects.entries, ∃ q ∈ p.2.entries, q.2 = f := by
  simp only [contents, Map.values, List.mem_flatMap, List.mem_map, exists_exists_and_eq_and]

theorem get?_eq_some_iff :
    s.get? project key = some f ↔ f ∈ s.contents ∧ f.address = (project, key) := by
  rw [get?, Option.bind_eq_some_iff, mem_contents_iff]
  simp only [Map.get?_eq_some_iff]
  constructor
  · rintro ⟨m, hm, hf⟩
    exact ⟨⟨_, hm, _, hf, rfl⟩, s.addressed _ hm _ hf⟩
  · rintro ⟨⟨⟨id, m⟩, hm, ⟨name, f⟩, hf, rfl⟩, haddress⟩
    obtain ⟨rfl, rfl⟩ := Prod.mk.inj ((s.addressed _ hm _ hf).symm.trans haddress)
    exact ⟨m, hm, hf⟩

theorem get?_project {m : Map String Feature} (hm : s.projects.get? project = some m) :
    s.get? project key = m.get? key := by
  rw [get?, hm, Option.bind_some]

theorem projects_get?_of_get?_eq {m : Map String Feature}
    (h : ∀ project key, s.get? project key = s'.get? project key)
    (hm : s.projects.get? project = some m) : s'.projects.get? project = some m := by
  obtain ⟨q, hq⟩ := List.exists_mem_of_ne_nil _ (s.inhabited _ (Map.get?_eq_some_iff.1 hm))
  have hfound : s'.get? project q.1 = some q.2 := by
    rw [← h, get?_project hm, Map.get?_eq_some_iff]
    exact hq
  obtain ⟨m', hm', _⟩ := Option.bind_eq_some_iff.1 hfound
  have hsame : m' = m := Map.ext_get? fun name => by
    rw [← get?_project hm', ← get?_project hm, h]
  rw [hm', hsame]

theorem ext_get? (h : ∀ project key, s.get? project key = s'.get? project key) : s = s' := by
  have hprojects : s.projects = s'.projects := Map.ext_get? fun id => Option.ext fun m =>
    ⟨projects_get?_of_get?_eq h, projects_get?_of_get?_eq fun project key => (h project key).symm⟩
  cases s
  cases s'
  cases hprojects
  rfl

theorem map_address_contents (s : Snapshot) :
    s.contents.map Feature.address =
      s.projects.entries.flatMap fun p => p.2.entries.map fun q => (p.1, q.1) := by
  rw [contents, Map.values, List.flatMap_map, List.map_flatMap]
  refine List.flatMap_congr fun p hp => ?_
  rw [Map.values, List.map_map]
  exact List.map_congr_left fun q hq => s.addressed p hp q hq

theorem nodup_addresses (s : Snapshot) : (s.contents.map Feature.address).Nodup := by
  rw [map_address_contents, List.nodup_flatMap]
  constructor
  · intro p _
    have hkeys : (p.2.entries.map fun q => (p.1, q.1)) =
        (p.2.entries.map Prod.fst).map (Prod.mk p.1) := by
      rw [List.map_map]
      rfl
    rw [hkeys]
    exact p.2.ordered.nodup.map fun _ _ h => (Prod.mk.inj h).2
  · refine s.projects.ordered.imp fun {p p'} hlt => List.disjoint_left.2 ?_
    intro address hp hp'
    obtain ⟨q, _, rfl⟩ := List.mem_map.1 hp
    obtain ⟨q', _, heq⟩ := List.mem_map.1 hp'
    exact absurd (Prod.mk.inj heq).1.symm (Std.ne_of_lt hlt)

/-- Every snapshot is made of the contents. -/
theorem ofFeatures_contents (s : Snapshot) : ofFeatures s.contents = s := by
  refine ext_get? fun project key => Option.ext fun f => ?_
  rw [get?_ofFeatures, latest?_eq_some_iff_of_nodup s.nodup_addresses, get?_eq_some_iff]

theorem evaluate_ofFeatures : (ofFeatures features).evaluate config project key context =
    ((latest? features project key).map (·.evaluate config context)).getD .notFound := by
  rw [evaluate, get?_ofFeatures]
  cases latest? features project key <;> rfl

theorem evaluateAt_ofFeatures : (ofFeatures features).evaluateAt config project key context time =
    ((latest? features project key).map (·.evaluateAt config context time)).getD .notFound := by
  rw [evaluateAt, get?_ofFeatures]
  cases latest? features project key <;> rfl

theorem evaluateAt_replace (haddress : f.address = g.address)
    (heval : f.evaluateAt config context time = g.evaluateAt config context time) :
    (ofFeatures (before ++ f :: after)).evaluateAt config project key context time =
      (ofFeatures (before ++ g :: after)).evaluateAt config project key context time := by
  rw [evaluateAt_ofFeatures, evaluateAt_ofFeatures, latest?_append, latest?_append, latest?_cons,
    latest?_cons, haddress]
  cases latest? after project key with
  | some h => rfl
  | none =>
    by_cases hg : g.address = (project, key)
    · rw [if_pos hg, if_pos hg]
      exact heval
    · rw [if_neg hg, if_neg hg]

end Snapshot

end FeatureFlags
