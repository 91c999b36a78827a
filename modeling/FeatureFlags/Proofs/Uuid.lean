import FeatureFlags.Uuid
import Mathlib.Algebra.Order.Ring.Nat

namespace FeatureFlags.Uuid

variable {s a b c d e : List Char}

theorem length_digits (count n : Nat) : (digits count n).length = count := by
  induction count generalizing n with
  | zero => rfl
  | succ count ih => rw [digits, List.length_append, ih, List.length_singleton]

theorem lt_of_mem_digits {count n k : Nat} (h : k ∈ digits count n) : k < 16 := by
  induction count generalizing n with
  | zero => cases h
  | succ count ih =>
    rcases List.mem_append.1 h with h | h
    · exact ih h
    · rw [List.mem_singleton.1 h]
      exact Nat.mod_lt _ (by decide)

theorem foldl_digits (count n : Nat) :
    (digits count n).foldl (fun m k => 16 * m + k) 0 = n % 16 ^ count := by
  induction count generalizing n with
  | zero => rw [Nat.pow_zero, Nat.mod_one]; rfl
  | succ count ih =>
    rw [digits, List.foldl_append, ih, Nat.pow_succ', Nat.mod_mul, Nat.add_comm]
    rfl

theorem hexNumber?_digits (count n : Nat) :
    Text.hexNumber? ((digits count n).map Text.hexDigit) = some (n % 16 ^ count) := by
  have hvalues : ((digits count n).map Text.hexDigit).mapM Text.hexValue? =
      some (digits count n) := by
    generalize hks : digits count n = ks
    have hlt : ∀ k ∈ ks, k < 16 := fun k hk => lt_of_mem_digits (hks ▸ hk)
    clear hks
    induction ks with
    | nil => rfl
    | cons k ks ih =>
      rw [List.map_cons, List.mapM_cons, Text.hexValue?_hexDigit (hlt k List.mem_cons_self),
        ih fun k hk => hlt k (List.mem_cons_of_mem _ hk)]
      rfl
  rw [Text.hexNumber?, hvalues, ← foldl_digits]
  rfl

theorem exists_groups (h : s.length = 32) :
    ∃ a b c d e : List Char, s = a ++ b ++ c ++ d ++ e ∧ a.length = 8 ∧ b.length = 4 ∧
      c.length = 4 ∧ d.length = 4 ∧ e.length = 12 := by
  refine ⟨s.take 8, (s.drop 8).take 4, (s.drop 12).take 4, (s.drop 16).take 4, s.drop 20, ?_⟩
  simp [h, ← List.take_add]

theorem unhyphenate?_hyphenate (h : s.length = 32) : unhyphenate? (hyphenate s) = some s := by
  obtain ⟨a, b, c, d, e, rfl, ha, hb, hc, hd, he⟩ := exists_groups h
  generalize ht : hyphenate (a ++ b ++ c ++ d ++ e) = t
  have hgroups : t = a ++ '-' :: (b ++ '-' :: (c ++ '-' :: (d ++ '-' :: e))) := by
    simp [← ht, hyphenate, List.drop_append, List.drop_eq_nil_of_le, ha, hb, hc, hd]
  have hbare : t.take 8 ++ (t.drop 9).take 4 ++ (t.drop 14).take 4 ++ (t.drop 19).take 4 ++
      t.drop 24 = a ++ b ++ c ++ d ++ e := by
    simp [hgroups, List.drop_append, List.drop_eq_nil_of_le, ha, hb, hc, hd]
  simp only [unhyphenate?, hbare]
  exact if_pos ht

theorem length_hyphenate (h : s.length = 32) : (hyphenate s).length = 36 := by
  simp [hyphenate, h]

@[simp] theorem parse?_write (u : Uuid) : parse? u.write = some u := by
  have hlength : ((digits 32 u.value.toNat).map Text.hexDigit).length = 32 := by
    rw [List.length_map, length_digits]
  have hbare : bareDigits? u.write.toList = some ((digits 32 u.value.toNat).map Text.hexDigit) := by
    rw [write, String.toList_ofList, bareDigits?, length_hyphenate hlength]
    exact unhyphenate?_hyphenate hlength
  have hvalue : u.value.toNat % 16 ^ 32 = u.value.toNat := Nat.mod_eq_of_lt u.value.isLt
  rw [parse?, hbare, Option.bind_eq_bind, Option.bind_some, hexNumber?_digits, hvalue]
  simp

end FeatureFlags.Uuid
