import FeatureFlags.Proofs.Snapshot.Index
import FeatureFlags.Proofs.Sorting
import Mathlib.Data.Finset.Card

namespace FeatureFlags.Snapshot

variable {s s' : Snapshot} {f g : Feature} {features features' : List Feature} {id project : Uuid}
  {key : String} {address : Uuid × String}

theorem get?_eq_none_iff :
    s.get? project key = none ↔ (project, key) ∉ s.contents.map Feature.address := by
  rw [Option.eq_none_iff_forall_ne_some, List.mem_map, not_exists]
  simp only [ne_eq, get?_eq_some_iff]

theorem featureCount_eq (s : Snapshot) :
    s.featureCount = (s.contents.map Feature.address).toFinset.card := by
  have hsize (m : Map String Feature) : m.values.length = m.size := List.length_map _
  rw [List.toFinset_card_of_nodup s.nodup_addresses, List.length_map, contents, List.length_flatMap,
    List.sum_eq_foldl, List.foldl_map, featureCount]
  simp only [hsize]

theorem mem_projects_iff :
    id ∈ s.projects.entries.map Prod.fst ↔ id ∈ s.contents.map (·.project) := by
  simp only [List.mem_map, mem_contents_iff]
  constructor
  · rintro ⟨p, hp, rfl⟩
    obtain ⟨q, hq⟩ := List.exists_mem_of_ne_nil _ (s.inhabited p hp)
    exact ⟨q.2, ⟨p, hp, q, hq, rfl⟩, (Prod.mk.inj (s.addressed p hp q hq)).1⟩
  · rintro ⟨_, ⟨p, hp, q, hq, rfl⟩, rfl⟩
    exact ⟨p, hp, (Prod.mk.inj (s.addressed p hp q hq)).1.symm⟩

theorem projectCount_eq (s : Snapshot) :
    s.projectCount = (s.contents.map (·.project)).toFinset.card := by
  rw [← List.toFinset.ext fun _ => mem_projects_iff,
    List.toFinset_card_of_nodup s.projects.ordered.nodup, List.length_map, projectCount, Map.size]

theorem mem_project_iff : f ∈ s.project id ↔ s.get? id f.key = some f := by
  rw [Snapshot.project, get?]
  cases hm : s.projects.get? id with
  | none => simp
  | some m =>
    simp only [Option.map_some, Option.getD_some, Option.bind_some, Map.get?_eq_some_iff,
      Map.values, List.mem_map]
    refine ⟨?_, fun hf => ⟨_, hf, rfl⟩⟩
    rintro ⟨q, hq, rfl⟩
    rwa [(Prod.mk.inj (s.addressed _ (Map.get?_eq_some_iff.1 hm) q hq)).2]

theorem nodup_keys (s : Snapshot) (id : Uuid) : ((s.project id).map (·.key)).Nodup := by
  rw [Snapshot.project]
  cases hm : s.projects.get? id with
  | none => exact List.nodup_nil
  | some m =>
    have hkeys : m.values.map (·.key) = m.entries.map Prod.fst := by
      rw [Map.values, List.map_map]
      refine List.map_congr_left fun q hq => ?_
      exact (Prod.mk.inj (s.addressed _ (Map.get?_eq_some_iff.1 hm) q hq)).2
    rw [Option.map_some, Option.getD_some, hkeys]
    exact m.ordered.nodup

theorem mem_keys_iff :
    key ∈ (s.project id).map (·.key) ↔ (id, key) ∈ s.contents.map Feature.address := by
  simp only [List.mem_map, mem_project_iff, get?_eq_some_iff]
  constructor
  · rintro ⟨f, ⟨hf, haddress⟩, rfl⟩
    exact ⟨f, hf, haddress⟩
  · rintro ⟨f, hf, haddress⟩
    have hkey : f.key = key := congrArg Prod.snd haddress
    exact ⟨f, ⟨hf, hkey ▸ haddress⟩, hkey⟩

theorem latest?_eq_getLast? :
    latest? features project key =
      (Sorting.under Feature.address (project, key) features).getLast? := by
  rw [latest?, ← List.head?_filter, List.filter_reverse, List.head?_reverse, Sorting.under]
  simp only [beq_eq_decide]

theorem mem_addresses_ofFeatures :
    address ∈ (ofFeatures features).contents.map Feature.address ↔
      address ∈ features.map Feature.address := by
  rw [← not_iff_not, ← get?_eq_none_iff, ← latest?_eq_none_iff, get?_ofFeatures]

theorem mem_projects_ofFeatures :
    id ∈ (ofFeatures features).contents.map (·.project) ↔ id ∈ features.map (·.project) := by
  have hprojects (features : List Feature) : features.map (·.project) =
      (features.map Feature.address).map Prod.fst := by
    rw [List.map_map]
    rfl
  rw [hprojects, hprojects, List.mem_map, List.mem_map]
  exact exists_congr fun address => and_congr_left' mem_addresses_ofFeatures

theorem featureCount_ofFeatures (features : List Feature) :
    (ofFeatures features).featureCount = (features.map Feature.address).toFinset.card := by
  rw [featureCount_eq, List.toFinset.ext fun _ => mem_addresses_ofFeatures]

theorem projectCount_ofFeatures (features : List Feature) :
    (ofFeatures features).projectCount = (features.map (·.project)).toFinset.card := by
  rw [projectCount_eq, List.toFinset.ext fun _ => mem_projects_ofFeatures]

theorem isEmpty_ofFeatures : (ofFeatures features).isEmpty = true ↔ features = [] := by
  rw [isEmpty, beq_iff_eq, featureCount_ofFeatures, Finset.card_eq_zero, List.toFinset_eq_empty_iff,
    List.map_eq_nil_iff]

/-- The same features in another order, but those of one address in the same. -/
structure Reordered (features features' : List Feature) : Prop where
  perm : features'.Perm features
  under : ∀ address, Sorting.under Feature.address address features' =
    Sorting.under Feature.address address features

theorem Reordered.get? (h : Reordered features features') (project : Uuid) (key : String) :
    (ofFeatures features').get? project key = (ofFeatures features).get? project key := by
  rw [get?_ofFeatures, get?_ofFeatures, latest?_eq_getLast?, latest?_eq_getLast?, h.under]

theorem Reordered.trans {features'' : List Feature} (h : Reordered features features')
    (h' : Reordered features' features'') : Reordered features features'' where
  perm := h'.perm.trans h.perm
  under address := (h'.under address).trans (h.under address)

theorem reordered_swap (before after : List Feature) (h : f.address ≠ g.address) :
    Reordered (before ++ f :: g :: after) (before ++ g :: f :: after) where
  perm := (List.Perm.swap f g after).append_left before
  under := by
    intro address
    by_cases hf : f.address = address
    · have hg : g.address ≠ address := fun hg => h (hf.trans hg.symm)
      simp [Sorting.under, hf, hg]
    · by_cases hg : g.address = address <;> simp [Sorting.under, hf, hg]

/-- A snapshot holds the last feature with each project and key, and nothing else: what it counts
and lists goes by these, and so by the order of features with one address only. -/
theorem ofFeatures_lastWrite (features : List Feature) :
    let s := ofFeatures features
    (∀ project key f, s.get? project key = some f ↔
        ∃ before after, features = before ++ f :: after ∧ f.address = (project, key) ∧
          ∀ g ∈ after, g.address ≠ (project, key)) ∧
      (∀ project key, s.get? project key = none ↔ ∀ f ∈ features, f.address ≠ (project, key)) ∧
      s.featureCount = (features.map Feature.address).toFinset.card ∧
      s.projectCount = (features.map (·.project)).toFinset.card ∧
      (s.isEmpty = true ↔ features = []) ∧
      (∀ id, ((s.project id).map (·.key)).Nodup ∧
        (∀ key, key ∈ (s.project id).map (·.key) ↔ ∃ f ∈ features, f.address = (id, key)) ∧
        ∀ f ∈ s.project id, s.get? id f.key = some f) ∧
      ∀ features', Reordered features features' →
        let s' := ofFeatures features'
        (∀ project key, s'.get? project key = s.get? project key) ∧
          s'.featureCount = s.featureCount ∧ s'.projectCount = s.projectCount ∧
          s'.isEmpty = s.isEmpty ∧ ∀ id, (s'.project id).Perm (s.project id) := by
  intro s
  refine ⟨?_, ?_, featureCount_ofFeatures features, projectCount_ofFeatures features,
    isEmpty_ofFeatures, ?_, ?_⟩
  · intro project key f
    rw [get?_ofFeatures, latest?_eq_some_iff]
  · intro project key
    rw [get?_ofFeatures, latest?_eq_none_iff, List.mem_map, not_exists]
    simp only [not_and]
  · intro id
    refine ⟨s.nodup_keys id, fun key => ?_, fun f hf => mem_project_iff.1 hf⟩
    rw [← List.mem_map, ← mem_addresses_ofFeatures, mem_keys_iff]
  · intro features' h s'
    have hsame : s' = s := ext_get? h.get?
    rw [hsame]
    exact ⟨fun _ _ => rfl, rfl, rfl, rfl, fun _ => .refl _⟩

def flag (project : Uuid) (key : String) (enabled : Bool) : Feature :=
  { Feature.boolean ⟨1⟩ project key ⟨.ofYear 2017, false, by decide⟩ with enabled }

def searches : List Feature :=
  [flag ⟨1⟩ "search" true, flag ⟨2⟩ "search" true, flag ⟨1⟩ "search" false, flag ⟨1⟩ "cart" true]

def searches' : List Feature :=
  [flag ⟨1⟩ "search" true, flag ⟨1⟩ "search" false, flag ⟨1⟩ "cart" true, flag ⟨2⟩ "search" true]

theorem ofFeatures_searches :
    (ofFeatures searches).get? ⟨1⟩ "search" = some (flag ⟨1⟩ "search" false) ∧
      (ofFeatures searches).featureCount = 3 ∧ (ofFeatures searches).projectCount = 2 ∧
      Reordered searches searches' ∧
      (ofFeatures searches').get? ⟨1⟩ "search" = some (flag ⟨1⟩ "search" false) ∧
      ((ofFeatures searches').project ⟨1⟩).Perm ((ofFeatures searches).project ⟨1⟩) := by
  obtain ⟨hget, _, hfeatures, hprojects, _, _, hreordered⟩ := ofFeatures_lastWrite searches
  have hoff : (ofFeatures searches).get? ⟨1⟩ "search" = some (flag ⟨1⟩ "search" false) := by
    refine (hget _ _ _).2 ⟨[_, _], [_], rfl, rfl, ?_⟩
    intro g hg
    rw [List.mem_singleton.1 hg]
    decide
  have horder : Reordered searches searches' :=
    (reordered_swap [_] [_] (by decide)).trans (reordered_swap [_, _] [] (by decide))
  obtain ⟨hsame, _, _, _, hlisted⟩ := hreordered searches' horder
  exact ⟨hoff, hfeatures, hprojects, horder, (hsame _ _).trans hoff, hlisted _⟩

end FeatureFlags.Snapshot
