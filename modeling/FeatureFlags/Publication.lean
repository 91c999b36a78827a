import FeatureFlags.Snapshot

namespace FeatureFlags

open Time

/-- The snapshots that were made, which of them is published now, and how many times one was
published since the first. -/
structure Publication where
  snapshots : List Snapshot
  current : Nat
  version : UInt64
  current_lt : current < snapshots.length

namespace Publication

def new (s : Snapshot) : Publication := ⟨[s], 0, 0, Nat.one_pos⟩

def shown (p : Publication) : Snapshot := p.snapshots.get ⟨p.current, p.current_lt⟩

/-- A number that a snapshot has; an unknown one stands for that of the snapshot published now. -/
def resolve (p : Publication) (number : Nat) : Fin p.snapshots.length :=
  if h : number < p.snapshots.length then ⟨number, h⟩ else ⟨p.current, p.current_lt⟩

def snapshot (p : Publication) (number : Nat) : Snapshot := p.snapshots.get (p.resolve number)

/-- Publishes a snapshot that was made before, and gives back the number of the one until then. -/
def republish (p : Publication) (number : Nat) : Nat × Publication :=
  (p.current,
    { p with
      current := p.resolve number
      version := p.version + 1
      current_lt := (p.resolve number).isLt })

def make (p : Publication) (s : Snapshot) : Publication :=
  { p with
    snapshots := p.snapshots ++ [s]
    current_lt := by
      rw [List.length_append]
      exact Nat.lt_add_right 1 p.current_lt }

def publish (p : Publication) (s : Snapshot) : Nat × Publication :=
  (p.make s).republish p.snapshots.length

inductive Request where
  | publish (features : List Feature)
  | republish (number : Nat)
  | load
  | lookUp (number : Nat) (project : Uuid) (key : String)
  | evaluate (config : Config) (project : Uuid) (key : String) (context : Context)
  | evaluateAt (config : Config) (project : Uuid) (key : String) (context : Context)
    (time : Instant)

inductive Answer where
  | number (number : Nat)
  | feature (feature : Option Feature)
  | evaluation (evaluation : Evaluation)

def step (p : Publication) : Request → Answer × Publication
  | .publish features =>
    let (previous, p) := p.publish (.ofFeatures features)
    (.number previous, p)
  | .republish number =>
    let (previous, p) := p.republish number
    (.number previous, p)
  | .load => (.number p.current, p)
  | .lookUp number project key => (.feature ((p.snapshot number).get? project key), p)
  | .evaluate config project key context =>
    (.evaluation (p.shown.evaluate config project key context), p)
  | .evaluateAt config project key context time =>
    (.evaluation (p.shown.evaluateAt config project key context time), p)

end Publication

end FeatureFlags
