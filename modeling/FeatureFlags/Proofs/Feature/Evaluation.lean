import FeatureFlags.Feature.Evaluation
import Mathlib.Data.List.Permutation

namespace FeatureFlags

namespace Feature

variable {config : Config} {context : Context} {f : Feature} {rule other : Rule} {e : Evaluation}
  {value : String} {i j : Nat}

def Precedes (a b : Rule × Nat) : Prop :=
  a.1.priority < b.1.priority ∨ a.1.priority = b.1.priority ∧ a.2 ≤ b.2

theorem precedes_of_zipIdxLE {a b : Rule × Nat}
    (h : List.zipIdxLE (fun a b : Rule => decide (a.priority ≤ b.priority)) a b = true) :
    Precedes a b := by
  simp only [List.zipIdxLE, decide_eq_true_eq, Bool.if_false_right, Bool.and_eq_true] at h
  obtain ⟨hle, htie⟩ := h
  rcases Int32.lt_or_eq_of_le hle with hlt | heq
  · exact .inl hlt
  · exact .inr ⟨heq, by simpa [heq] using htie⟩

theorem precedes_refl (a : Rule × Nat) : Precedes a a := .inr ⟨rfl, Nat.le_refl _⟩

theorem Precedes.position_eq {a b : Rule × Nat} (h : Precedes a b) (h' : Precedes b a) :
    a.2 = b.2 := by
  rcases h with hlt | ⟨heq, hle⟩
  · rcases h' with hlt' | ⟨heq, _⟩
    · exact absurd hlt' (Int32.lt_asymm hlt)
    · rw [heq] at hlt
      exact absurd hlt Int32.lt_irrefl
  · rcases h' with hlt | ⟨_, hge⟩
    · rw [heq] at hlt
      exact absurd hlt Int32.lt_irrefl
    · exact Nat.le_antisymm hle hge

theorem rules_sorted (f : Feature) :
    ∃ sorted : List (Rule × Nat), sorted.map Prod.fst = f.rulesByPriority ∧
      sorted.Pairwise Precedes ∧ ∀ p, p ∈ sorted ↔ f.rules[p.2]? = some p.1 := by
  let le (a b : Rule) : Bool := decide (a.priority ≤ b.priority)
  have htrans (a b c : Rule) (hab : le a b = true) (hbc : le b c = true) : le a c = true := by
    simp only [le, decide_eq_true_eq] at *
    exact Int32.le_trans hab hbc
  have htotal (a b : Rule) : (le a b || le b a) = true := by
    simpa [le] using Int32.le_total a.priority b.priority
  refine ⟨f.rules.zipIdx.mergeSort (List.zipIdxLE le), List.mergeSort_zipIdx, ?_, ?_⟩
  · exact (List.pairwise_mergeSort (List.zipIdxLE_trans htrans) (List.zipIdxLE_total htotal) _).imp
      precedes_of_zipIdxLE
  · intro p
    rw [List.mem_mergeSort, List.mem_zipIdx_iff_getElem?]

theorem exists_of_findSome?_rulesByPriority {β : Type} {result : Rule → Option β} {b : β}
    (h : f.rulesByPriority.findSome? result = some b) :
    ∃ i rule, f.rules[i]? = some rule ∧ result rule = some b ∧
      ∀ j other, f.rules[j]? = some other → result other ≠ none →
        Precedes (rule, i) (other, j) := by
  obtain ⟨sorted, hmap, hsorted, hmem⟩ := f.rules_sorted
  rw [← hmap, List.findSome?_map] at h
  obtain ⟨before, ⟨rule, i⟩, after, rfl, hb, hbefore⟩ := List.findSome?_eq_some_iff.1 h
  have hlater := (List.pairwise_cons.1 (List.pairwise_append.1 hsorted).2.1).1
  refine ⟨i, rule, (hmem (rule, i)).1 (by simp), hb, ?_⟩
  intro j other hother hresult
  rcases List.mem_append.1 ((hmem (other, j)).2 hother) with hin | hin
  · exact absurd (hbefore _ hin) hresult
  · rcases List.mem_cons.1 hin with heq | hin
    · rw [heq]
      exact precedes_refl _
    · exact hlater _ hin

/-- A rule that holds and whose variant, if it assigns one, is a variant of the feature. -/
structure Counts (f : Feature) (context : Context) (rule : Rule) : Prop where
  holds : rule.holds context = true
  known : rule.action = .assign → ∃ v ∈ f.variants, rule.variantId = some v.id

/-- The rule at position `i` counts and precedes all others that do. -/
structure Decides (f : Feature) (context : Context) (i : Nat) (rule : Rule) : Prop where
  listed : f.rules[i]? = some rule
  counts : f.Counts context rule
  first : ∀ j other, f.rules[j]? = some other → f.Counts context other →
    Precedes (rule, i) (other, j)

/-- The first of the variants with an identifier. -/
def HasVariant (f : Feature) (id : Uuid) (v : Variant) : Prop :=
  ∃ before after, f.variants = before ++ v :: after ∧ v.id = id ∧ ∀ w ∈ before, w.id ≠ id

def rolloutAttribute (f : Feature) (config : Config) : String := f.rolloutKey.getD config.rolloutKey

/-- The name that a caller's bucket leads to. -/
inductive Buckets (f : Feature) (config : Config) (context : Context) : String → Prop
  | carried {v : Json} : context.get? (f.rolloutAttribute config) = some v →
      Buckets f config context (Rollout.pickName f.variants v.text f.defaultVariant)
  | missing : context.get? (f.rolloutAttribute config) = none →
      Buckets f config context f.defaultVariant

/-- What a rule serves. -/
inductive RuleServes (f : Feature) (config : Config) (context : Context) (rule : Rule) :
    String → Prop
  | assign {id : Uuid} {v : Variant} : rule.action = .assign → rule.variantId = some id →
      f.HasVariant id v → RuleServes f config context rule v.name
  | rollout {value : String} : rule.action = .rollout → f.Buckets config context value →
      RuleServes f config context rule value
  | exclude : rule.action = .exclude → RuleServes f config context rule f.defaultVariant

/-- What a feature with variants serves while it is on, and why. -/
inductive Serves (f : Feature) (config : Config) (context : Context) : Evaluation → Prop
  | rule {i : Nat} {rule : Rule} {value : String} : f.Decides context i rule →
      f.RuleServes config context rule value →
      Serves f config context ⟨value, true, true, .ruleMatch rule.id rule.action⟩
  | rollout {v : Json} {value : String} : (∀ rule ∈ f.rules, ¬ f.Counts context rule) →
      context.get? (f.rolloutAttribute config) = some v → f.Buckets config context value →
      Serves f config context ⟨value, true, true, .rollout⟩
  | fallthrough : (∀ rule ∈ f.rules, ¬ f.Counts context rule) →
      context.get? (f.rolloutAttribute config) = none →
      Serves f config context ⟨f.defaultVariant, true, true, .fallthrough⟩

theorem Decides.unique (h : f.Decides context i rule) (h' : f.Decides context j other) :
    rule = other := by
  have hij : i = j := (h.first j other h'.listed h'.counts).position_eq
    (h'.first i rule h.listed h.counts)
  have hlisted := h.listed
  rw [hij, h'.listed] at hlisted
  exact (Option.some.inj hlisted).symm

theorem variant?_eq_some_iff {id : Uuid} {v : Variant} :
    f.variant? id = some v ↔ f.HasVariant id v := by
  simp only [variant?, List.find?_eq_some_iff_append, HasVariant, beq_iff_eq, Bool.not_eq_true',
    beq_eq_false_iff_ne]
  constructor
  · rintro ⟨hid, before, after, hsplit, hbefore⟩
    exact ⟨before, after, hsplit, hid, hbefore⟩
  · rintro ⟨before, after, hsplit, hid, hbefore⟩
    exact ⟨hid, before, after, hsplit, hbefore⟩

theorem buckets_iff : f.Buckets config context value ↔ f.rolloutValue config context = value := by
  have htext : f.rolloutText? config context =
      (context.get? (f.rolloutAttribute config)).map Json.text := rfl
  constructor
  · intro h
    cases h with
    | carried hv => simp only [rolloutValue, htext, hv, Option.map_some]
    | missing hnone => simp only [rolloutValue, htext, hnone, Option.map_none]
  · rintro rfl
    cases hv : context.get? (f.rolloutAttribute config) with
    | some v =>
      simp only [rolloutValue, htext, hv, Option.map_some]
      exact .carried hv
    | none =>
      simp only [rolloutValue, htext, hv, Option.map_none]
      exact .missing hv

theorem ruleValue?_eq_some_iff :
    f.ruleValue? config context rule = some value ↔ f.RuleServes config context rule value := by
  unfold ruleValue?
  constructor
  · intro h
    split at h
    case h_1 ha =>
      obtain ⟨v, hv, rfl⟩ := Option.map_eq_some_iff.1 h
      obtain ⟨id, hid, hv⟩ := Option.bind_eq_some_iff.1 hv
      exact .assign ha hid (variant?_eq_some_iff.1 hv)
    case h_2 ha => exact .rollout ha (buckets_iff.2 (Option.some.inj h))
    case h_3 ha =>
      cases h
      exact .exclude ha
  · intro h
    cases h with
    | assign ha hid hv =>
      simp only [ha, hid, Option.bind_some, variant?_eq_some_iff.2 hv, Option.map_some]
    | rollout ha hb => simp only [ha, buckets_iff.1 hb]
    | exclude ha => simp only [ha]

theorem exists_ruleServes_iff :
    (∃ value, f.RuleServes config context rule value) ↔
      (rule.action = .assign → ∃ v ∈ f.variants, rule.variantId = some v.id) := by
  constructor
  · rintro ⟨value, h⟩ ha
    cases h with
    | @assign id v _ hid hv =>
      obtain ⟨before, after, hsplit, hv, _⟩ := hv
      exact ⟨v, by simp [hsplit], by rw [hid, hv]⟩
    | rollout hr => cases ha.symm.trans hr
    | exclude he => cases ha.symm.trans he
  · intro h
    cases ha : rule.action with
    | assign =>
      obtain ⟨v, hv, hid⟩ := h ha
      obtain ⟨w, hw⟩ := Option.isSome_iff_exists.1
        (List.find?_isSome.2 ⟨v, hv, beq_iff_eq.2 rfl⟩ : (f.variant? v.id).isSome = true)
      exact ⟨w.name, .assign ha hid (variant?_eq_some_iff.1 hw)⟩
    | rollout => exact ⟨_, .rollout ha (buckets_iff.2 rfl)⟩
    | exclude => exact ⟨_, .exclude ha⟩

theorem decide?_eq_some_iff :
    f.decide? config context rule = some e ↔ f.Counts context rule ∧
      ∃ value, f.RuleServes config context rule value ∧
        e = ⟨value, true, true, .ruleMatch rule.id rule.action⟩ := by
  simp only [decide?, Option.ite_none_right_eq_some, Option.map_eq_some_iff, ruleValue?_eq_some_iff]
  constructor
  · rintro ⟨hholds, value, hvalue, rfl⟩
    exact ⟨⟨hholds, exists_ruleServes_iff.1 ⟨value, hvalue⟩⟩, value, hvalue, rfl⟩
  · rintro ⟨hcounts, value, hvalue, rfl⟩
    exact ⟨hcounts.holds, value, hvalue, rfl⟩

theorem decide?_ne_none_iff : f.decide? config context rule ≠ none ↔ f.Counts context rule := by
  rw [Option.ne_none_iff_exists']
  constructor
  · rintro ⟨e, he⟩
    exact (decide?_eq_some_iff.1 he).1
  · intro h
    obtain ⟨value, hvalue⟩ := exists_ruleServes_iff.2 h.known
    exact ⟨_, decide?_eq_some_iff.2 ⟨h, value, hvalue, rfl⟩⟩

theorem mem_rulesByPriority : rule ∈ f.rulesByPriority ↔ rule ∈ f.rules := List.mem_mergeSort

theorem findSome?_eq_none_iff :
    f.rulesByPriority.findSome? (f.decide? config context) = none ↔
      ∀ rule ∈ f.rules, ¬ f.Counts context rule := by
  simp only [List.findSome?_eq_none_iff, mem_rulesByPriority]
  constructor
  · intro h rule hrule hcounts
    exact decide?_ne_none_iff.2 hcounts (h rule hrule)
  · intro h rule hrule
    cases he : f.decide? config context rule with
    | none => rfl
    | some e => exact absurd (decide?_eq_some_iff.1 he).1 (h rule hrule)

/-- Otherwise it ends at the rule that decides. -/
theorem findSome?_eq_some_iff :
    f.rulesByPriority.findSome? (f.decide? config context) = some e ↔
      ∃ i rule value, f.Decides context i rule ∧ f.RuleServes config context rule value ∧
        e = ⟨value, true, true, .ruleMatch rule.id rule.action⟩ := by
  have hdecides {e : Evaluation}
      (h : f.rulesByPriority.findSome? (f.decide? config context) = some e) :
      ∃ i rule, f.Decides context i rule ∧ f.decide? config context rule = some e := by
    obtain ⟨i, rule, hlisted, he, hfirst⟩ := exists_of_findSome?_rulesByPriority h
    refine ⟨i, rule, ⟨hlisted, (decide?_eq_some_iff.1 he).1, ?_⟩, he⟩
    intro j other hother hcounts
    exact hfirst j other hother (decide?_ne_none_iff.2 hcounts)
  constructor
  · intro h
    obtain ⟨i, rule, hrule, he⟩ := hdecides h
    obtain ⟨_, value, hvalue, rfl⟩ := decide?_eq_some_iff.1 he
    exact ⟨i, rule, value, hrule, hvalue, rfl⟩
  · rintro ⟨i, rule, value, hrule, hvalue, rfl⟩
    cases h : f.rulesByPriority.findSome? (f.decide? config context) with
    | none =>
      have hmem : rule ∈ f.rules := List.mem_of_getElem? hrule.listed
      exact absurd hrule.counts (findSome?_eq_none_iff.1 h rule hmem)
    | some e =>
      obtain ⟨j, other, hother, he⟩ := hdecides h
      obtain rfl := hrule.unique hother
      rw [← he, decide?_eq_some_iff]
      exact ⟨hrule.counts, value, hvalue, rfl⟩

theorem evaluate_multivariant (hon : f.enabled = true) (hkind : f.kind = .multivariant) :
    f.evaluate config context =
      (f.rulesByPriority.findSome? (f.decide? config context)).getD
        (f.unmatched config context) := by
  simp [evaluate, hon, hkind]

/-- A feature with variants that is on serves what its deciding rule says, and where no rule counts
what the caller's bucket says. -/
theorem evaluate_eq_iff_serves (hon : f.enabled = true) (hkind : f.kind = .multivariant) :
    f.evaluate config context = e ↔ f.Serves config context e := by
  have hunmatched : f.unmatched config context = ⟨f.rolloutValue config context, true, true,
      if (context.get? (f.rolloutAttribute config)).isSome then .rollout else .fallthrough⟩ := by
    rw [unmatched, rolloutText?, Option.isSome_map]
    rfl
  rw [evaluate_multivariant hon hkind]
  constructor
  · rintro rfl
    cases h : f.rulesByPriority.findSome? (f.decide? config context) with
    | some e =>
      obtain ⟨i, rule, value, hrule, hvalue, rfl⟩ := findSome?_eq_some_iff.1 h
      exact .rule hrule hvalue
    | none =>
      have hnone := findSome?_eq_none_iff.1 h
      rw [Option.getD_none, hunmatched]
      cases hv : context.get? (f.rolloutAttribute config) with
      | some v => exact .rollout hnone hv (buckets_iff.2 rfl)
      | none =>
        rw [buckets_iff.1 (.missing hv)]
        exact .fallthrough hnone hv
  · intro h
    cases h with
    | rule hrule hvalue =>
      rw [findSome?_eq_some_iff.2 ⟨_, _, _, hrule, hvalue, rfl⟩, Option.getD_some]
    | rollout hnone hv hvalue =>
      rw [findSome?_eq_none_iff.2 hnone, Option.getD_none, hunmatched, buckets_iff.1 hvalue, hv]
      rfl
    | fallthrough hnone hv =>
      rw [findSome?_eq_none_iff.2 hnone, Option.getD_none, hunmatched,
        buckets_iff.1 (.missing hv), hv]
      rfl

def banner : Feature :=
  { multivariant ⟨1⟩ ⟨2⟩ "banner" "plain" [⟨⟨3⟩, "red", 30⟩, ⟨⟨3⟩, "blue", 70⟩]
      ⟨.ofYear 2025, false, by decide⟩ with
    rules := [.ofAction ⟨4⟩ 5 .exclude, .assign ⟨5⟩ (-1) ⟨9⟩, .assign ⟨6⟩ 2 ⟨3⟩,
      .ofAction ⟨6⟩ 2 .exclude] }

theorem serves_banner_red :
    banner.enabled = true ∧ banner.kind = .multivariant ∧
      banner.Serves .default .empty ⟨"red", true, true, .ruleMatch ⟨6⟩ .assign⟩ := by
  refine ⟨rfl, rfl, (evaluate_eq_iff_serves rfl rfl).1 ?_⟩
  cbv

end Feature

end FeatureFlags
