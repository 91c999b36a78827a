import FeatureFlags.Uuid

namespace FeatureFlags

structure Variant where
  id : Uuid
  name : String
  percent : UInt8
deriving DecidableEq

namespace Variant

def ofShare (id : Uuid) (name : String) (percent : UInt8) : Variant :=
  ⟨id, name, min percent 100⟩

end Variant

namespace Rollout

def buckets : UInt64 := 100

/-- The polynomial with base 31 and the characters' scalar values as coefficients, modulo `2 ^ 64`.
-/
def stableHash (key : String) : UInt64 :=
  key.toList.foldl (fun hash c => hash * 31 + UInt64.ofNat c.toNat) 0

def bucket (key : String) : Nat := (stableHash key % buckets).toNat

theorem bucket_lt (key : String) : bucket key < buckets.toNat := by
  rw [bucket, UInt64.toNat_mod]
  exact Nat.mod_lt _ (by decide)

/-- The position of the first variant with which the running total of shares passes `bucket`. The
total has 32 bits. -/
def pickFrom (bucket : UInt32) : (total : UInt32) → List Variant → Option Nat
  | _, [] => none
  | total, v :: rest =>
    if bucket < total + v.percent.toUInt32 then some 0
    else (pickFrom bucket (total + v.percent.toUInt32) rest).map (· + 1)

/-- The position of the variant that serves a key, `none` where the shares leave its bucket free. -/
def pickIndex? (variants : List Variant) (key : String) : Option Nat :=
  pickFrom (UInt32.ofNat (bucket key)) 0 variants

def pick? (variants : List Variant) (key : String) : Option Variant := do
  variants[← pickIndex? variants key]?

def pickName (variants : List Variant) (key fallback : String) : String :=
  ((pick? variants key).map Variant.name).getD fallback

end Rollout

end FeatureFlags
