import FeatureFlags.Proofs.Number.Rounding
import FeatureFlags.Proofs.Rollout
import FeatureFlags.Targeting.Condition

namespace FeatureFlags

namespace Json

variable {m n : Int}

/-- The whole numbers of JSON have 64 bits, with a sign or without. -/
def IsWhole (n : Int) : Prop := Int64.minValue.toInt ≤ n ∧ n < UInt64.size

instance (n : Int) : Decidable (IsWhole n) := inferInstanceAs (Decidable (_ ≤ _ ∧ _ < _))

theorem isWhole_iff : IsWhole n ↔ -2 ^ 63 ≤ n ∧ n < 2 ^ 64 := Iff.rfl

theorem clamp64_eq (n : Int) : clamp64 n = max (-2 ^ 63) (min n (2 ^ 63 - 1)) := rfl

theorem clamp64_mono (h : m ≤ n) : clamp64 m ≤ clamp64 n := by
  rw [clamp64_eq, clamp64_eq]
  omega

theorem toInteger?_int (h : IsWhole n) : (int n).toInteger? = some (clamp64 n) := by
  by_cases hfits : clamp64 n = n
  · rw [int, toInteger?, if_pos hfits, hfits]
  · rw [isWhole_iff] at h
    rw [clamp64_eq] at hfits
    have hlarge : 2 ^ 63 ≤ n := by omega
    obtain ⟨x, hx, htrunc⟩ := Binary64.exists_ofInt? hlarge h.2 (by decide)
    have hfinite : (int n).toFinite? = some x := hx
    have hclamp : clamp64 x.trunc = clamp64 n := by
      rw [clamp64_eq, clamp64_eq]
      omega
    rw [int] at hfinite ⊢
    rw [toInteger?, if_neg (by rwa [clamp64_eq]), hfinite, Option.map_some, hclamp]

end Json

namespace Targeting

open Json Rollout

variable {context : Context} {key : String} {actual : Json}
  {low high threshold : Value} {a b n : Int}

/-- Lets through the callers of the buckets below a threshold. -/
def Condition.gate (key : String) (threshold : Value) : Condition := ⟨key, .percentage, threshold⟩

namespace Condition

theorem gate_holds_iff :
    (gate key threshold).holds context = true ↔
      ∃ actual, context.get? key = some actual ∧
        ∃ n, threshold.json.toInteger? = some n ∧ (bucket actual.text : Int) < n := by
  simp only [holds, gate, Operator.holds, Option.any_eq_true, decide_eq_true_eq]

theorem gate_holds_mono (ha : low.json.toInteger? = some a) (hb : high.json.toInteger? = some b)
    (hab : a ≤ b) (h : (gate key low).holds context = true) :
    (gate key high).holds context = true := by
  rw [gate_holds_iff] at h ⊢
  obtain ⟨actual, hactual, n, hn, hlt⟩ := h
  rw [ha, Option.some.injEq] at hn
  exact ⟨actual, hactual, b, hb, hlt.trans_le (hn ▸ hab)⟩

theorem gate_int_holds_iff (hactual : context.get? key = some actual) (hn : IsWhole n) :
    (gate key (.int n)).holds context = true ↔ (bucket actual.text : Int) < n := by
  have hbucket : bucket actual.text < 100 := bucket_lt actual.text
  rw [gate_holds_iff, Value.json_int, toInteger?_int hn]
  simp only [hactual, Option.some.injEq, exists_eq_left', clamp64_eq]
  omega

/-- A threshold that is the sum of the shares up to a position lets through the callers whom the
variants up to there serve, and a greater one lets through them all. -/
theorem gate_splits (context : Context) (key : String) :
    (∀ (variants : List Variant) (i : Nat) (actual : Json),
      context.get? key = some actual → IsWhole (allotted variants (i + 1)) →
      ((gate key (.int (allotted variants (i + 1)))).holds context = true ↔
        ∃ j ≤ i, pickIndex? variants actual.text = some j)) ∧
      ∀ a b, IsWhole a → IsWhole b → a ≤ b → (gate key (.int a)).holds context = true →
        (gate key (.int b)).holds context = true := by
  constructor
  · intro variants i actual hactual hwhole
    rw [gate_int_holds_iff hactual hwhole, exists_pickIndex?_le_iff, Int.ofNat_lt]
  · intro a b ha hb hab h
    exact gate_holds_mono (toInteger?_int ha) (toInteger?_int hb) (clamp64_mono hab) h

def staged : List Variant := [⟨⟨1⟩, "none", 0⟩, ⟨⟨2⟩, "most", 60⟩, ⟨⟨3⟩, "rest", 60⟩]

theorem gate_staged :
    (Context.ofList [("account", int 7)]).get? "account" = some (int 7) ∧
      IsWhole (allotted staged 2) ∧ pickIndex? staged (int 7).text = some 1 ∧
      (gate "account" (.int 60)).holds (.ofList [("account", int 7)]) = true ∧
      (gate "account" (.int 120)).holds (.ofList [("account", int 7)]) = true := by
  have hactual : (Context.ofList [("account", int 7)]).get? "account" = some (int 7) := rfl
  have hwhole : IsWhole (allotted staged 2) := by decide
  have hpick : pickIndex? staged (int 7).text = some 1 := by decide
  obtain ⟨hsplits, hmono⟩ := gate_splits (.ofList [("account", int 7)]) "account"
  have hholds := (hsplits staged 1 _ hactual hwhole).2 ⟨1, le_rfl, hpick⟩
  exact ⟨hactual, hwhole, hpick, hholds, hmono 60 120 (by decide) (by decide) (by decide) hholds⟩

end Condition

end Targeting

end FeatureFlags
