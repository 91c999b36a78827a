import FeatureFlags.Feature.Evaluation

namespace FeatureFlags

open Time

/-- What a feature is found by. -/
def Feature.address (f : Feature) : Uuid × String := (f.project, f.key)

/-- Features by project and key. -/
structure Snapshot where
  projects : Map Uuid (Map String Feature)
  inhabited : ∀ p ∈ projects.entries, p.2.entries ≠ []
  addressed : ∀ p ∈ projects.entries, ∀ q ∈ p.2.entries, q.2.address = (p.1, q.1)

namespace Snapshot

def empty : Snapshot := ⟨.empty, by simp [Map.empty], by simp [Map.empty]⟩

/-- Puts a feature in the place of the one with its project and key, if there is one. -/
def insert (s : Snapshot) (f : Feature) : Snapshot where
  projects :=
    s.projects.insert f.project (((s.projects.get? f.project).getD .empty).insert f.key f)
  inhabited := by
    intro p hp
    rcases Fields.eq_or_mem_of_mem_insert hp with rfl | hp
    · exact Fields.insert_ne_nil
    · exact s.inhabited p hp
  addressed := by
    intro p hp q hq
    rcases Fields.eq_or_mem_of_mem_insert hp with rfl | hp
    · rcases Fields.eq_or_mem_of_mem_insert hq with rfl | hq
      · rfl
      · cases hget : s.projects.get? f.project with
        | none => simp [hget, Map.empty] at hq
        | some features =>
          rw [hget, Option.getD_some] at hq
          exact s.addressed _ (Fields.mem_of_get?_eq_some hget) q hq
    · exact s.addressed p hp q hq

/-- Of several features with one project and key the last stays. -/
def ofFeatures (features : List Feature) : Snapshot := features.foldl insert empty

def get? (s : Snapshot) (project : Uuid) (key : String) : Option Feature :=
  (s.projects.get? project).bind (·.get? key)

theorem get?_insert (s : Snapshot) (f : Feature) (project : Uuid) (key : String) :
    (s.insert f).get? project key =
      if f.address = (project, key) then some f else s.get? project key := by
  simp only [get?, insert, Map.get?_insert, Feature.address, Prod.mk.injEq]
  by_cases hproject : f.project = project
  · subst hproject
    by_cases hkey : f.key = key
    · simp [Map.get?_insert, hkey]
    · cases hget : s.projects.get? f.project <;> simp [Map.get?_insert, hkey]
  · simp [hproject]

def project (s : Snapshot) (id : Uuid) : List Feature :=
  ((s.projects.get? id).map Map.values).getD []

def projectCount (s : Snapshot) : Nat := s.projects.size

def featureCount (s : Snapshot) : Nat := s.projects.values.foldl (fun n m => n + m.size) 0

def isEmpty (s : Snapshot) : Bool := s.featureCount == 0

def evaluate (s : Snapshot) (config : Config) (project : Uuid) (key : String) (context : Context) :
    Evaluation :=
  match s.get? project key with
  | some f => f.evaluate config context
  | none => .notFound

def evaluateAt (s : Snapshot) (config : Config) (project : Uuid) (key : String) (context : Context)
    (time : Instant) : Evaluation :=
  match s.get? project key with
  | some f => f.evaluateAt config context time
  | none => .notFound

end Snapshot

end FeatureFlags
