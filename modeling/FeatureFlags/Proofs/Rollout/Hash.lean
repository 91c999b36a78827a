import FeatureFlags.Rollout
import Mathlib.Algebra.BigOperators.Fin
import Mathlib.Tactic.Ring

namespace FeatureFlags.Rollout

/-- The value of the polynomial, as large as it may be. -/
def polynomial : List Char → Nat
  | [] => 0
  | c :: cs => c.toNat * 31 ^ cs.length + polynomial cs

theorem polynomial_eq_sum (cs : List Char) :
    polynomial cs = ∑ i : Fin cs.length, cs[i].toNat * 31 ^ (cs.length - 1 - i) := by
  induction cs with
  | nil => rfl
  | cons c cs ih =>
    have hpower (i : Fin cs.length) : cs.length + 1 - 1 - (i + 1) = cs.length - 1 - i := by omega
    calc polynomial (c :: cs)
        = c.toNat * 31 ^ cs.length + ∑ i : Fin cs.length, cs[i].toNat * 31 ^ (cs.length - 1 - i) :=
          by rw [polynomial, ih]
      _ = ∑ i : Fin (cs.length + 1), (c :: cs)[i].toNat * 31 ^ (cs.length + 1 - 1 - i) := by
        rw [Fin.sum_univ_succ]
        simp only [Fin.val_succ, hpower]
        rfl

/-- The hash of more characters, from the hash so far on. -/
def hashFrom (hash : UInt64) (cs : List Char) : UInt64 :=
  cs.foldl (fun hash c => hash * 31 + UInt64.ofNat c.toNat) hash

theorem stableHash_append_eq (a b : String) :
    stableHash (a ++ b) = hashFrom (stableHash a) b.toList := by
  rw [stableHash, String.toList_append, List.foldl_append]
  rfl

theorem toNat_hash_step (hash : UInt64) (c : Char) :
    (hash * 31 + UInt64.ofNat c.toNat).toNat = (hash.toNat * 31 + c.toNat) % 2 ^ 64 := by
  have hbase : (31 : UInt64).toNat = 31 := rfl
  rw [UInt64.toNat_add, UInt64.toNat_mul, UInt64.toNat_ofNat', hbase, ← Nat.add_mod]

theorem toNat_hashFrom (hash : UInt64) (cs : List Char) :
    (hashFrom hash cs).toNat = (hash.toNat * 31 ^ cs.length + polynomial cs) % 2 ^ 64 := by
  induction cs generalizing hash with
  | nil =>
    rw [polynomial, List.length_nil, Nat.pow_zero, Nat.mul_one, Nat.add_zero]
    exact (Nat.mod_eq_of_lt hash.toNat_lt).symm
  | cons c cs ih =>
    have hpowers : (hash.toNat * 31 + c.toNat) * 31 ^ cs.length + polynomial cs =
        hash.toNat * 31 ^ (cs.length + 1) + (c.toNat * 31 ^ cs.length + polynomial cs) := by ring
    calc (hashFrom hash (c :: cs)).toNat
        = (hashFrom (hash * 31 + UInt64.ofNat c.toNat) cs).toNat := rfl
      _ = ((hash.toNat * 31 + c.toNat) % 2 ^ 64 * 31 ^ cs.length + polynomial cs) % 2 ^ 64 := by
        rw [ih, toNat_hash_step]
      _ = ((hash.toNat * 31 + c.toNat) * 31 ^ cs.length + polynomial cs) % 2 ^ 64 := by
        rw [Nat.add_mod, Nat.mod_mul_mod, ← Nat.add_mod]
      _ = (hash.toNat * 31 ^ (c :: cs).length + polynomial (c :: cs)) % 2 ^ 64 := by
        rw [hpowers, List.length_cons, polynomial]

theorem toNat_stableHash (key : String) :
    (stableHash key).toNat = polynomial key.toList % 2 ^ 64 := by
  have hstart : stableHash key = hashFrom 0 key.toList := rfl
  rw [hstart, toNat_hashFrom, UInt64.toNat_zero, Nat.zero_mul, Nat.zero_add]

theorem bucket_eq (key : String) : bucket key = (stableHash key).toNat % 100 := by
  rw [bucket, UInt64.toNat_mod]
  rfl

/-- The hash of a key is a polynomial in its characters modulo `2 ^ 64`; what is put behind a key
takes the hash up by one power for each of its characters and adds its own hash, before the bucket
is taken modulo a hundred. -/
theorem stableHash_polynomial :
    (∀ key : String, (stableHash key).toNat =
        (∑ i : Fin key.toList.length,
          key.toList[i].toNat * 31 ^ (key.toList.length - 1 - i)) % 2 ^ 64) ∧
      ∀ a b : String,
        (stableHash (a ++ b)).toNat =
          ((stableHash a).toNat * 31 ^ b.length + (stableHash b).toNat) % 2 ^ 64 ∧
        bucket (a ++ b) =
          ((stableHash a).toNat * 31 ^ b.length + (stableHash b).toNat) % 2 ^ 64 % 100 := by
  have happend (a b : String) : (stableHash (a ++ b)).toNat =
      ((stableHash a).toNat * 31 ^ b.length + (stableHash b).toNat) % 2 ^ 64 := by
    rw [stableHash_append_eq, toNat_hashFrom, String.length_toList, toNat_stableHash b,
      Nat.add_mod_mod]
  constructor
  · intro key
    rw [toNat_stableHash, polynomial_eq_sum]
  · intro a b
    exact ⟨happend a b, by rw [bucket_eq, happend]⟩

/-- A character counts once, however many bytes it has. -/
example : (stableHash "é1").toNat = 233 * 31 + 49 := by decide

end FeatureFlags.Rollout
