import FeatureFlags.Proofs.Feature.Evaluation
import FeatureFlags.Proofs.Sorting
import Mathlib.Data.List.Infix
import Mathlib.Logic.Relation

namespace FeatureFlags.Feature

open Sorting

variable {config : Config} {context : Context} {f : Feature} {rule : Rule}
  {rules rules' : List Rule}

/-- A rule that assigns a variant and names none of the feature's. -/
def Dangling (f : Feature) (rule : Rule) : Prop :=
  rule.action = .assign ∧ ∀ v ∈ f.variants, rule.variantId ≠ some v.id

instance : Decidable (f.Dangling rule) := inferInstanceAs (Decidable (_ ∧ _))

/-- A rule without effect in a context. -/
def Idle (f : Feature) (context : Context) (rule : Rule) : Prop :=
  rule.holds context = false ∨ f.Dangling rule

instance : Decidable (f.Idle context rule) := inferInstanceAs (Decidable (_ ∨ _))

theorem counts_iff : f.Counts context rule ↔ rule.holds context = true ∧ ¬ f.Dangling rule := by
  constructor
  · intro h
    refine ⟨h.holds, ?_⟩
    rintro ⟨haction, hvariants⟩
    obtain ⟨v, hv, hid⟩ := h.known haction
    exact hvariants v hv hid
  · rintro ⟨hholds, hdangling⟩
    refine ⟨hholds, fun haction => ?_⟩
    by_contra hnone
    exact hdangling ⟨haction, fun v hv hid => hnone ⟨v, hv, hid⟩⟩

instance : Decidable (f.Counts context rule) := decidable_of_iff _ counts_iff.symm

theorem Idle.not_counts (h : f.Idle context rule) : ¬ f.Counts context rule := by
  rw [counts_iff]
  rintro ⟨hholds, hdangling⟩
  rcases h with hfalse | hdangling'
  · rw [hfalse] at hholds
    cases hholds
  · exact hdangling hdangling'

def counting (f : Feature) (context : Context) (rules : List Rule) : List Rule :=
  rules.filter (f.Counts context ·)

/-- Under each priority the same rules count, in the same order. -/
def SameCounting (f : Feature) (context : Context) (rules rules' : List Rule) : Prop :=
  ∀ priority, under Rule.priority priority (f.counting context rules) =
    under Rule.priority priority (f.counting context rules')

/-- A search by priority sees no rule but those that count. -/
theorem findSome?_sortOn (f : Feature) (config : Config) (context : Context) (rules : List Rule) :
    (sortOn Rule.priority rules).findSome? (f.decide? config context) =
      (sortOn Rule.priority (f.counting context rules)).findSome? (f.decide? config context) := by
  rw [counting, ← filter_sortOn, ← List.head?_filterMap, ← List.head?_filterMap,
    List.filterMap_filter, List.filterMap_congr]
  intro rule _
  split
  · rfl
  · next hcounts =>
    by_contra hne
    exact hcounts (decide_eq_true (decide?_ne_none_iff.1 hne))

theorem SameCounting.evaluate (h : f.SameCounting context f.rules rules) (config : Config) :
    ({ f with rules } : Feature).evaluate config context = f.evaluate config context := by
  have hsearch : ({ f with rules } : Feature).rulesByPriority.findSome? (f.decide? config context) =
      f.rulesByPriority.findSome? (f.decide? config context) := calc
    _ = (sortOn Rule.priority (f.counting context rules)).findSome? (f.decide? config context) :=
      f.findSome?_sortOn config context rules
    _ = (sortOn Rule.priority (f.counting context f.rules)).findSome?
        (f.decide? config context) := by rw [sortOn_congr h]
    _ = _ := (f.findSome?_sortOn config context f.rules).symm
  rw [Feature.evaluate, Feature.evaluate, ← hsearch]
  rfl

/-- A change of a rule list that no caller with the context can see. -/
inductive Edit (f : Feature) (context : Context) : List Rule → List Rule → Prop
  | insert {before after : List Rule} {rule : Rule} : f.Idle context rule →
      Edit f context (before ++ after) (before ++ rule :: after)
  | delete {before after : List Rule} {rule : Rule} : f.Idle context rule →
      Edit f context (before ++ rule :: after) (before ++ after)
  | reorder {rules rules' : List Rule} :
      (∀ priority, under Rule.priority priority rules = under Rule.priority priority rules') →
      Edit f context rules rules'

theorem Idle.counting_insert (h : f.Idle context rule) (before after : List Rule) :
    f.counting context (before ++ rule :: after) = f.counting context (before ++ after) := by
  simp [counting, h.not_counts]

theorem Edit.sameCounting (h : f.Edit context rules rules') :
    f.SameCounting context rules rules' := by
  intro priority
  cases h with
  | insert hidle => rw [hidle.counting_insert]
  | delete hidle => rw [hidle.counting_insert]
  | reorder hunder => rw [counting, counting, under_filter, under_filter, hunder]

theorem sameCounting_of_edits (h : Relation.ReflTransGen (f.Edit context) rules rules') :
    f.SameCounting context rules rules' := by
  induction h with
  | refl => exact fun _ => rfl
  | tail _ hedit ih => exact fun priority => (ih priority).trans (hedit.sameCounting priority)

/-- Rules that do not hold or assign no variant, and the order of rules of different priorities, do
not matter. -/
theorem evaluate_edited (h : Relation.ReflTransGen (f.Edit context) f.rules rules)
    (config : Config) :
    ({ f with rules } : Feature).evaluate config context = f.evaluate config context :=
  (sameCounting_of_edits h).evaluate config

def bannerEdited : List Rule :=
  [.assign ⟨6⟩ 2 ⟨3⟩, .ofAction ⟨7⟩ 2 .assign, .ofAction ⟨6⟩ 2 .exclude, .ofAction ⟨4⟩ 5 .exclude]

theorem evaluate_banner_edited :
    Relation.ReflTransGen (banner.Edit .empty) banner.rules bannerEdited ∧
      ({ banner with rules := bannerEdited } : Feature).evaluate .default .empty =
        banner.evaluate .default .empty := by
  have hdelete : banner.Edit .empty
      ([.ofAction ⟨4⟩ 5 .exclude] ++ .assign ⟨5⟩ (-1) ⟨9⟩ ::
        [.assign ⟨6⟩ 2 ⟨3⟩, .ofAction ⟨6⟩ 2 .exclude])
      ([.ofAction ⟨4⟩ 5 .exclude] ++ [.assign ⟨6⟩ 2 ⟨3⟩, .ofAction ⟨6⟩ 2 .exclude]) :=
    .delete (by decide)
  have hreorder : banner.Edit .empty
      [.ofAction ⟨4⟩ 5 .exclude, .assign ⟨6⟩ 2 ⟨3⟩, .ofAction ⟨6⟩ 2 .exclude]
      [.assign ⟨6⟩ 2 ⟨3⟩, .ofAction ⟨6⟩ 2 .exclude, .ofAction ⟨4⟩ 5 .exclude] := by
    refine .reorder fun priority => ?_
    by_cases hlast : 5 = priority
    · subst hlast
      rfl
    · simp [under, List.filter_cons, Rule.ofAction, Rule.assign, hlast]
  have hinsert : banner.Edit .empty
      ([.assign ⟨6⟩ 2 ⟨3⟩] ++ [.ofAction ⟨6⟩ 2 .exclude, .ofAction ⟨4⟩ 5 .exclude])
      ([.assign ⟨6⟩ 2 ⟨3⟩] ++ .ofAction ⟨7⟩ 2 .assign ::
        [.ofAction ⟨6⟩ 2 .exclude, .ofAction ⟨4⟩ 5 .exclude]) :=
    .insert (by decide)
  have hedits : Relation.ReflTransGen (banner.Edit .empty) banner.rules bannerEdited :=
    ((Relation.ReflTransGen.single hdelete).tail hreorder).tail hinsert
  exact ⟨hedits, evaluate_edited hedits .default⟩

theorem decide?_of_not_holds (h : rule.holds context = false) :
    f.decide? config context rule = none := by
  rw [decide?, h]
  rfl

theorem reason_unmatched (f : Feature) (config : Config) (context : Context) :
    (f.unmatched config context).reason = .rollout ∨
      (f.unmatched config context).reason = .fallthrough := by
  rw [unmatched, Evaluation.served]
  split
  · exact .inl rfl
  · exact .inr rfl

theorem evaluate_of_firstMatchingRule?_eq_none (hon : f.enabled = true)
    (hkind : f.kind = .multivariant) (h : f.firstMatchingRule? context = none) :
    f.evaluate config context = f.unmatched config context := by
  have hnone : ∀ rule ∈ f.rules, ¬ f.Counts context rule := by
    intro rule hrule hcounts
    have hholds := List.find?_eq_none.1 h rule (mem_rulesByPriority.2 hrule)
    exact hholds hcounts.holds
  rw [evaluate_multivariant hon hkind, findSome?_eq_none_iff.2 hnone, Option.getD_none]

theorem reason_of_firstMatchingRule? (hon : f.enabled = true) (hkind : f.kind = .multivariant)
    (h : f.firstMatchingRule? context = some rule) (hdangling : ¬ f.Dangling rule) :
    (f.evaluate config context).reason = .ruleMatch rule.id rule.action := by
  obtain ⟨hholds, before, after, hsplit, hbefore⟩ := List.find?_eq_some_iff_append.1 h
  obtain ⟨e, he⟩ := Option.ne_none_iff_exists'.1
    (decide?_ne_none_iff.2 (counts_iff.2 ⟨hholds, hdangling⟩) :
      f.decide? config context rule ≠ none)
  have hsearch : f.rulesByPriority.findSome? (f.decide? config context) = some e := by
    refine List.findSome?_eq_some_iff.2 ⟨before, rule, after, hsplit, he, ?_⟩
    intro other hother
    exact decide?_of_not_holds (by simpa using hbefore other hother)
  obtain ⟨_, value, _, rfl⟩ := decide?_eq_some_iff.1 he
  rw [evaluate_multivariant hon hkind, hsearch, Option.getD_some]

/-- A dangling rule may be taken out at any place where it stands. -/
theorem evaluate_eraseIdx {i : Nat} (hlisted : f.rules[i]? = some rule)
    (hdangling : f.Dangling rule) (config : Config) (context : Context) :
    ({ f with rules := f.rules.eraseIdx i } : Feature).evaluate config context =
      f.evaluate config context := by
  obtain ⟨hi, rfl⟩ := List.getElem?_eq_some_iff.1 hlisted
  apply SameCounting.evaluate
  have hedit : f.Edit context (f.rules.take i ++ f.rules[i] :: f.rules.drop (i + 1))
      (f.rules.take i ++ f.rules.drop (i + 1)) := .delete (.inr hdangling)
  rw [← List.drop_eq_getElem_cons hi, List.take_append_drop,
    ← List.eraseIdx_eq_take_drop_succ] at hedit
  exact hedit.sameCounting

/-- The first rule that holds decides unless it assigns an unknown variant; then the feature serves
what it serves without that rule. -/
theorem firstMatchingRule?_decides (config : Config) (context : Context)
    (hon : f.enabled = true) (hkind : f.kind = .multivariant) :
    (f.firstMatchingRule? context = none →
      (f.evaluate config context).reason = .rollout ∨
        (f.evaluate config context).reason = .fallthrough) ∧
    ∀ rule, f.firstMatchingRule? context = some rule →
      (¬ f.Dangling rule →
        (f.evaluate config context).reason = .ruleMatch rule.id rule.action) ∧
      (f.Dangling rule → rule ∈ f.rules ∧ ∀ i, f.rules[i]? = some rule →
        ({ f with rules := f.rules.eraseIdx i } : Feature).evaluate config context =
          f.evaluate config context) := by
  constructor
  · intro h
    rw [evaluate_of_firstMatchingRule?_eq_none hon hkind h]
    exact f.reason_unmatched config context
  · intro rule h
    constructor
    · exact reason_of_firstMatchingRule? hon hkind h
    · intro hdangling
      refine ⟨mem_rulesByPriority.1 (List.mem_of_find?_eq_some h), ?_⟩
      intro i hlisted
      exact evaluate_eraseIdx hlisted hdangling config context

theorem banner_without_first :
    banner.enabled = true ∧ banner.kind = .multivariant ∧
      banner.firstMatchingRule? .empty = some (.assign ⟨5⟩ (-1) ⟨9⟩) ∧
      ({ banner with rules := banner.rules.eraseIdx 1 } : Feature).evaluate .default .empty =
        banner.evaluate .default .empty := by
  have hfirst : banner.firstMatchingRule? .empty = some (.assign ⟨5⟩ (-1) ⟨9⟩) := by cbv
  obtain ⟨_, hsome⟩ := firstMatchingRule?_decides (f := banner) .default .empty rfl rfl
  obtain ⟨_, herase⟩ := (hsome _ hfirst).2 (by decide)
  exact ⟨rfl, rfl, hfirst, herase 1 rfl⟩

end FeatureFlags.Feature
