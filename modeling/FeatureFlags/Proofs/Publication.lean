import FeatureFlags.Proofs.Snapshot.Index
import FeatureFlags.Publication

namespace FeatureFlags.Publication

variable {p : Publication} {r : Request} {requests : List Request} {number : Nat}

def Request.features? : Request → Option (List Feature)
  | publish features => some features
  | _ => none

def Request.publishes : Request → Bool
  | publish _ | republish _ => true
  | _ => false

def published? (p : Publication) : Request → Option Nat
  | .publish _ => some p.snapshots.length
  | .republish number => some (p.resolve number)
  | _ => none

/-- The number that is given back for one that is published. -/
def handedBack? : Request → Answer → Option Nat
  | .publish _, .number previous => some previous
  | .republish _, .number previous => some previous
  | _, _ => none

def after (p : Publication) (requests : List Request) : Publication :=
  requests.foldl (fun p r => (p.step r).2) p

/-- The numbers that a run publishes. -/
def published (p : Publication) : List Request → List Nat
  | [] => []
  | r :: requests => (p.published? r).toList ++ (p.step r).2.published requests

/-- The numbers that a run gives back. -/
def handedBack (p : Publication) : List Request → List Nat
  | [] => []
  | r :: requests => (handedBack? r (p.step r).1).toList ++ (p.step r).2.handedBack requests

theorem resolve_of_lt (h : number < p.snapshots.length) : (p.resolve number : Nat) = number := by
  rw [resolve, dif_pos h]

theorem getElem?_snapshots (h : number < p.snapshots.length) :
    p.snapshots[number]? = some (p.snapshot number) := by
  rw [snapshot, resolve, dif_pos h, List.getElem?_eq_getElem h]
  rfl

theorem snapshot_current : p.snapshot p.current = p.shown := by
  rw [snapshot, resolve, dif_pos p.current_lt]
  rfl

theorem step_snapshots : (p.step r).2.snapshots =
    p.snapshots ++ (r.features?.map Snapshot.ofFeatures).toList := by
  cases r with
  | publish features => rfl
  | _ => exact (List.append_nil _).symm

theorem step_version : (p.step r).2.version.toNat =
    (p.version.toNat + if r.publishes then 1 else 0) % UInt64.size := by
  cases r with
  | publish | republish => exact UInt64.toNat_add _ _
  | _ => exact (Nat.mod_eq_of_lt p.version.toNat_lt).symm

theorem step_published : p.current :: (p.published? r).toList =
    (handedBack? r (p.step r).1).toList ++ [(p.step r).2.current] := by
  cases r with
  | publish features =>
    have hnew : ((p.make (.ofFeatures features)).resolve p.snapshots.length : Nat) =
        p.snapshots.length := resolve_of_lt (by simp [make])
    exact congrArg (fun number => [p.current, number]) hnew.symm
  | _ => rfl

theorem after_cons (p : Publication) (r : Request) (requests : List Request) :
    p.after (r :: requests) = (p.step r).2.after requests := rfl

theorem snapshots_after : (p.after requests).snapshots =
    p.snapshots ++ (requests.filterMap Request.features?).map Snapshot.ofFeatures := by
  induction requests generalizing p with
  | nil => exact (List.append_nil _).symm
  | cons r requests ih =>
    rw [after_cons, ih, step_snapshots, List.append_assoc, List.filterMap_cons]
    cases r.features? <;> rfl

theorem version_after : (p.after requests).version.toNat =
    (p.version.toNat + requests.countP Request.publishes) % UInt64.size := by
  induction requests generalizing p with
  | nil => exact (Nat.mod_eq_of_lt p.version.toNat_lt).symm
  | cons r requests ih =>
    rw [after_cons, ih, step_version, List.countP_cons, Nat.mod_add_mod, Nat.add_assoc,
      Nat.add_comm (requests.countP _)]

/-- Each snapshot that is published is given back in its turn, and the last of them is current. -/
theorem published_eq_handedBack : p.current :: p.published requests =
    p.handedBack requests ++ [(p.after requests).current] := by
  induction requests generalizing p with
  | nil => rfl
  | cons r requests ih =>
    calc p.current :: p.published (r :: requests)
        = (p.current :: (p.published? r).toList) ++ (p.step r).2.published requests := rfl
      _ = (handedBack? r (p.step r).1).toList ++
          (p.step r).2.current :: (p.step r).2.published requests := by
        rw [step_published, List.append_assoc, List.singleton_append]
      _ = p.handedBack (r :: requests) ++ [(p.after (r :: requests)).current] := by
        rw [ih, ← List.append_assoc]
        rfl

theorem snapshot_after (h : number < p.snapshots.length) :
    (p.after requests).snapshot number = p.snapshot number := by
  have hlater : number < (p.after requests).snapshots.length := by
    rw [snapshots_after, List.length_append]
    exact Nat.lt_add_right _ h
  apply Option.some.inj
  rw [← getElem?_snapshots hlater, snapshots_after, List.getElem?_append_left h,
    getElem?_snapshots h]

theorem exists_features (first : List Feature) (requests : List Request) :
    let p := (new (.ofFeatures first)).after requests
    ∃ features, (first :: requests.filterMap Request.features?)[p.current]? = some features ∧
      p.shown = .ofFeatures features := by
  intro p
  have hsnapshots : p.snapshots =
      (first :: requests.filterMap Request.features?).map Snapshot.ofFeatures := snapshots_after
  have hshown := getElem?_snapshots p.current_lt
  rw [snapshot_current, hsnapshots, List.getElem?_map, Option.map_eq_some_iff] at hshown
  obtain ⟨features, hfeatures, heq⟩ := hshown
  exact ⟨features, hfeatures, heq.symm⟩

/-- Every snapshot is made of features. Whatever the first is made of, the version counts those that
were published since; each gives back the one whose place it takes, so that none is lost; one that
was loaded shows the same features ever after; and an evaluation sees, of the features that the
current one was made of, the last with the project and the key that it asks for. -/
theorem after_new :
    (∀ s : Snapshot, ∃ features, Snapshot.ofFeatures features = s) ∧
    ∀ (first : List Feature) (requests : List Request),
      let start := new (.ofFeatures first)
      let p := start.after requests
      p.version.toNat = requests.countP Request.publishes % UInt64.size ∧
      (∀ features, (p.step (.publish features)).1 = .number p.current) ∧
      (∀ number, (p.step (.republish number)).1 = .number p.current) ∧
      start.current :: start.published requests = start.handedBack requests ++ [p.current] ∧
      (p.step .load).1 = .number p.current ∧
      ∃ features, (first :: requests.filterMap Request.features?)[p.current]? = some features ∧
        (∀ later project key, ((p.after later).step (.lookUp p.current project key)).1 =
          .feature (Snapshot.latest? features project key)) ∧
        (∀ config project key context, (p.step (.evaluate config project key context)).1 =
          .evaluation (((Snapshot.latest? features project key).map
            (·.evaluate config context)).getD .notFound)) ∧
        ∀ config project key context time,
          (p.step (.evaluateAt config project key context time)).1 =
            .evaluation (((Snapshot.latest? features project key).map
              (·.evaluateAt config context time)).getD .notFound) := by
  refine ⟨fun s => ⟨s.contents, s.ofFeatures_contents⟩, ?_⟩
  intro first requests start p
  obtain ⟨features, hfeatures, hshown⟩ := exists_features first requests
  refine ⟨?_, fun _ => rfl, fun _ => rfl, published_eq_handedBack, rfl, features, hfeatures, ?_, ?_,
    ?_⟩
  · have hzero : start.version.toNat = 0 := rfl
    rw [version_after, hzero, Nat.zero_add]
  · intro later project key
    have hlater : (p.after later).snapshot p.current = .ofFeatures features := by
      rw [snapshot_after p.current_lt, snapshot_current, hshown]
    rw [step, hlater, Snapshot.get?_ofFeatures]
  · intro config project key context
    rw [step, hshown, Snapshot.evaluate_ofFeatures]
  · intro config project key context time
    rw [step, hshown, Snapshot.evaluateAt_ofFeatures]

end FeatureFlags.Publication
