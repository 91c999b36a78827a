import FeatureFlags.Feature.Evaluation
import FeatureFlags.Proofs.Feature.Evaluation
import FeatureFlags.Proofs.Number.Numeral
import FeatureFlags.Proofs.Targeting.Conditions
import FeatureFlags.Snapshot
import Mathlib.Algebra.Order.Ring.Int

namespace FeatureFlags

open Text

variable {c d : Context} {name : String} {config : Config}

namespace Json

theorem parse?_trimChars_of_bracket {bracket : Char} (s : List Char)
    (h : bracket = '[' ∨ bracket = '\x7b') :
    Binary64.parse? (trimChars (bracket :: s)) = none := by
  have hblank : isBlank bracket = false := by rcases h with rfl | rfl <;> rfl
  obtain ⟨t, ht⟩ := trimChars_cons (s := s) hblank
  rw [ht]
  rcases h with rfl | rfl <;> rfl

/-- A value is the number that its text spells. -/
theorem toFinite?_eq_parse? (v : Json) :
    v.toFinite? = Binary64.parse? (trimChars v.text.toList) := by
  cases v with
  | null => rfl
  | bool b => cases b <;> rfl
  | number n =>
    have hwrite : (number n).text = n.write := rfl
    rw [hwrite, trimChars_of_solid n.write_solid, n.parse?_write]
    rfl
  | string s => rfl
  | array items =>
    have hwrite : (array items).text.toList =
        '[' :: (",".intercalate (writeItems items) ++ "]").toList := by
      simp [text, write]
    rw [hwrite, parse?_trimChars_of_bracket _ (.inl rfl)]
    rfl
  | object members =>
    have hwrite : (object members).text.toList =
        '\x7b' :: (",".intercalate (writeMembers members) ++ "\x7d").toList := by
      simp [text, write]
    rw [hwrite, parse?_trimChars_of_bracket _ (.inr rfl)]
    rfl

end Json

/-- An attribute that neither context has, or both with values of the same text. -/
def Context.SameText (c d : Context) (name : String) : Prop :=
  (c.get? name).map Json.text = (d.get? name).map Json.text

namespace Targeting

theorem Operator.holds_eq_of_text_eq {actual actual' : Json} (op : Operator) (operand : Json)
    (h : actual.text = actual'.text) : op.holds actual operand = op.holds actual' operand := by
  have hfinite : actual.toFinite? = actual'.toFinite? := by
    rw [Json.toFinite?_eq_parse?, Json.toFinite?_eq_parse?, h]
  have hcompares (test : Binary64 → Binary64 → Bool) :
      compares test actual operand = compares test actual' operand := by
    rw [compares, compares, hfinite]
  have hmembership : membership? actual operand = membership? actual' operand := by
    rw [membership?, membership?, h]
  cases op with
  | eq | neq | regex | percentage => simp only [holds, h]
  | oneOf | notOneOf => simp only [holds, hmembership]
  | gt | gte | lt | lte => exact hcompares _
  | unknown => rfl

theorem Condition.holds_congr (condition : Condition) (h : c.SameText d condition.key) :
    condition.holds c = condition.holds d := by
  unfold Context.SameText at h
  rw [Condition.holds, Condition.holds]
  cases hc : c.get? condition.key with
  | none =>
    rw [hc, Option.map_none, eq_comm, Option.map_eq_none_iff] at h
    rw [h]
  | some actual =>
    rw [hc, Option.map_some, eq_comm, Option.map_eq_some_iff] at h
    obtain ⟨actual', hd, htext⟩ := h
    rw [hd, Option.any_some, Option.any_some]
    exact condition.operator.holds_eq_of_text_eq condition.operand htext.symm

end Targeting

namespace Feature

variable {f : Feature}

/-- The attributes that the rules of a feature name, and the one that puts callers into buckets. -/
def attributes (f : Feature) (config : Config) : List String :=
  f.rolloutAttribute config ::
    f.rules.flatMap fun rule => rule.conditions.conditions.map Targeting.Condition.key

/-- The contexts have the same texts under all attributes that the feature mentions. -/
def SameTexts (f : Feature) (config : Config) (c d : Context) : Prop :=
  ∀ name ∈ f.attributes config, c.SameText d name

theorem SameTexts.rolloutText? (h : f.SameTexts config c d) :
    f.rolloutText? config c = f.rolloutText? config d := h _ List.mem_cons_self

theorem SameTexts.rolloutValue (h : f.SameTexts config c d) :
    f.rolloutValue config c = f.rolloutValue config d := by
  rw [Feature.rolloutValue, Feature.rolloutValue, h.rolloutText?]

theorem SameTexts.holds {rule : Rule} (h : f.SameTexts config c d) (hrule : rule ∈ f.rules) :
    rule.holds c = rule.holds d := by
  refine rule.conditions.holds_congr fun condition hcondition => condition.holds_congr (h _ ?_)
  refine List.mem_cons_of_mem _ (List.mem_flatMap.2 ⟨rule, hrule, ?_⟩)
  exact List.mem_map_of_mem hcondition

theorem SameTexts.decide? {rule : Rule} (h : f.SameTexts config c d) (hrule : rule ∈ f.rules) :
    f.decide? config c rule = f.decide? config d rule := by
  have hvalue : f.ruleValue? config c rule = f.ruleValue? config d rule := by
    rw [ruleValue?, ruleValue?, h.rolloutValue]
  rw [Feature.decide?, Feature.decide?, h.holds hrule, hvalue]

theorem SameTexts.evaluate (h : f.SameTexts config c d) :
    f.evaluate config c = f.evaluate config d := by
  have hrules : f.rulesByPriority.findSome? (f.decide? config c) =
      f.rulesByPriority.findSome? (f.decide? config d) := by
    rw [← List.head?_filterMap, ← List.head?_filterMap, List.filterMap_congr]
    exact fun rule hrule => h.decide? (mem_rulesByPriority.1 hrule)
  have hunmatched : f.unmatched config c = f.unmatched config d := by
    rw [unmatched, unmatched, h.rolloutValue, h.rolloutText?]
  rw [Feature.evaluate, Feature.evaluate, hrules, hunmatched]

theorem SameTexts.evaluateAt (h : f.SameTexts config c d) (time : Time.Instant) :
    f.evaluateAt config c time = f.evaluateAt config d time := by
  rw [Feature.evaluateAt, Feature.evaluateAt, h.evaluate]

end Feature

namespace Snapshot

/-- What is served depends on nothing of a context but the texts that the feature mentions. -/
theorem evaluations_eq_of_sameTexts (config : Config) (c d : Context) :
    (∀ f : Feature, f.SameTexts config c d → f.evaluate config c = f.evaluate config d) ∧
      ∀ (s : Snapshot) (project : Uuid) (key : String),
        (∀ f ∈ s.get? project key, f.SameTexts config c d) →
          s.evaluate config project key c = s.evaluate config project key d ∧
            ∀ time, s.evaluateAt config project key c time =
              s.evaluateAt config project key d time := by
  refine ⟨fun f hf => hf.evaluate, ?_⟩
  intro s project key h
  unfold evaluate evaluateAt
  cases hf : s.get? project key with
  | none => exact ⟨rfl, fun _ => rfl⟩
  | some f =>
    have hsame := h f hf
    exact ⟨hsame.evaluate, hsame.evaluateAt⟩

def checkout : Feature :=
  { Feature.multivariant ⟨1⟩ ⟨2⟩ "checkout" "plain" [⟨⟨3⟩, "new", 40⟩]
      ⟨.ofYear 2021, false, by decide⟩ with
    rules := [⟨⟨4⟩, 1, .group .andNot [.condition ⟨"age", .gte, .int 18⟩,
      .group .or [.condition ⟨"beta", .eq, .bool true⟩]], .rollout, none⟩] }

def typed : Context :=
  .ofList [("age", .int 21), ("beta", .bool false), ("user_id", .array [.int 7, .null])]

def spelled : Context :=
  .ofList [("age", .string "21"), ("beta", .string "false"), ("user_id", .string "[7,null]")]

theorem evaluations_checkout_eq :
    checkout.SameTexts .default typed spelled ∧
      checkout.evaluate .default typed = checkout.evaluate .default spelled ∧
      (empty.insert checkout).evaluateAt .default ⟨2⟩ "checkout" typed (.ofYear 2026) =
        (empty.insert checkout).evaluateAt .default ⟨2⟩ "checkout" spelled (.ofYear 2026) := by
  have hsame : checkout.SameTexts .default typed spelled := by
    intro name hname
    have hnames : name ∈ ["user_id", "age", "beta"] := hname
    simp only [List.mem_cons, List.not_mem_nil, or_false] at hnames
    rcases hnames with rfl | rfl | rfl <;> rfl
  have hget : (empty.insert checkout).get? ⟨2⟩ "checkout" = some checkout := get?_insert ..
  obtain ⟨hfeature, hsnapshot⟩ := evaluations_eq_of_sameTexts .default typed spelled
  refine ⟨hsame, hfeature checkout hsame, ?_⟩
  refine (hsnapshot (empty.insert checkout) ⟨2⟩ "checkout" ?_).2 (.ofYear 2026)
  intro f hf
  rw [hget] at hf
  rwa [← Option.mem_some_iff.1 hf]

end Snapshot

end FeatureFlags
