import FeatureFlags.Targeting.Condition
import Mathlib.Algebra.Group.Nat.Even

namespace FeatureFlags.Targeting

variable {context : Context} {op : Operator} {operand : Json} {e e' first : Expression}
  {before after rest : List Expression} {n : Nat}

/-- An operand that is of no use to an operator. -/
def Operator.Malformed : Operator → Json → Prop
  | oneOf, operand | notOneOf, operand => operand.toTexts? = none
  | gt, operand | gte, operand | lt, operand | lte, operand => operand.toFinite? = none
  | regex, operand => Pattern.Regex.parse? operand.text = none
  | percentage, operand => operand.toInteger? = none
  | eq, _ | neq, _ | unknown, _ => False

/-- A condition that says nothing about a context: its operator is unknown, its operand malformed or
its attribute missing. -/
inductive Condition.Void (context : Context) (condition : Condition) : Prop
  | operator : condition.operator = .unknown → Void context condition
  | operand : condition.operator.Malformed condition.operand → Void context condition
  | missing : context.get? condition.key = none → Void context condition

theorem Operator.Malformed.holds (h : op.Malformed operand) (actual : Json) :
    op.holds actual operand = false := by
  cases op with
  | eq | neq | unknown => exact h.elim
  | oneOf | notOneOf =>
    have hnone : membership? actual operand = none := Option.map_eq_none_iff.2 h
    rw [Operator.holds, hnone]
    rfl
  | gt | gte | lt | lte => exact compares_of_none _ (.inr h)
  | regex =>
    have hnone : Pattern.Regex.parse? operand.text = none := h
    rw [Operator.holds, Pattern.isMatch, hnone, Option.any_none]
  | percentage =>
    have hnone : operand.toInteger? = none := h
    rw [Operator.holds, hnone, Option.any_none]

theorem Condition.Void.holds {condition : Condition} (h : condition.Void context) :
    condition.holds context = false := by
  rw [Condition.holds]
  cases hactual : context.get? condition.key with
  | none => rfl
  | some actual =>
    rw [Option.any_some]
    cases h with
    | operator hunknown => rw [hunknown, Operator.holds]
    | operand hmalformed => exact hmalformed.holds actual
    | missing hmissing => cases hactual.symm.trans hmissing

namespace Expression

/-- One condition of an expression was made void; `crossings` counts the groups of exclusion that
are entered on the way to it by another child than the first. -/
inductive Degraded (context : Context) : (crossings : Nat) → Expression → Expression → Prop
  | condition {c d : Condition} : d.Void context → Degraded context 0 (condition c) (condition d)
  | and {n : Nat} {e e' : Expression} (before after : List Expression) : Degraded context n e e' →
      Degraded context n (group .and (before ++ e :: after)) (group .and (before ++ e' :: after))
  | or {n : Nat} {e e' : Expression} (before after : List Expression) : Degraded context n e e' →
      Degraded context n (group .or (before ++ e :: after)) (group .or (before ++ e' :: after))
  | included {n : Nat} {e e' : Expression} (rest : List Expression) : Degraded context n e e' →
      Degraded context n (group .andNot (e :: rest)) (group .andNot (e' :: rest))
  | excluded {n : Nat} {first e e' : Expression} (before after : List Expression) :
      Degraded context n e e' →
      Degraded context (n + 1) (group .andNot (first :: before ++ e :: after))
        (group .andNot (first :: before ++ e' :: after))

theorem allHold_imp (h : e.holds context = true → e'.holds context = true)
    (hall : allHold context (before ++ e :: after) = true) :
    allHold context (before ++ e' :: after) = true := by
  simp only [allHold_eq_all, List.all_append, List.all_cons, Bool.and_eq_true] at hall ⊢
  obtain ⟨hbefore, he, hafter⟩ := hall
  exact ⟨hbefore, h he, hafter⟩

theorem anyHolds_imp (h : e.holds context = true → e'.holds context = true)
    (hany : anyHolds context (before ++ e :: after) = true) :
    anyHolds context (before ++ e' :: after) = true := by
  simp only [anyHolds_eq_any, List.any_append, List.any_cons, Bool.or_eq_true] at hany ⊢
  rcases hany with hbefore | he | hafter
  · exact .inl hbefore
  · exact .inr (.inl (h he))
  · exact .inr (.inr hafter)

theorem holds_andNot_iff :
    (group .andNot (first :: rest)).holds context = true ↔
      first.holds context = true ∧ ¬ anyHolds context rest = true := by
  rw [holds, Bool.and_eq_true, Bool.not_eq_true', Bool.not_eq_true]

/-- A void condition under an even number of exclusions only keeps callers out, and under an odd
number it only lets callers in. -/
theorem Degraded.holds_one_way (h : Degraded context n e e') :
    (Even n → e'.holds context = true → e.holds context = true) ∧
      (¬ Even n → e.holds context = true → e'.holds context = true) := by
  induction h with
  | condition hvoid =>
    constructor
    · intro _ hholds
      rw [Expression.holds, hvoid.holds] at hholds
      cases hholds
    · intro hodd
      exact absurd Even.zero hodd
  | and before after _ ih =>
    exact ⟨fun hn => allHold_imp (ih.1 hn), fun hn => allHold_imp (ih.2 hn)⟩
  | or before after _ ih =>
    exact ⟨fun hn => anyHolds_imp (ih.1 hn), fun hn => anyHolds_imp (ih.2 hn)⟩
  | included rest _ ih =>
    simp only [holds_andNot_iff]
    constructor
    · intro hn h
      exact ⟨ih.1 hn h.1, h.2⟩
    · intro hn h
      exact ⟨ih.2 hn h.1, h.2⟩
  | excluded before after _ ih =>
    simp only [List.cons_append, holds_andNot_iff, Nat.even_add_one, not_not]
    constructor
    · intro hn h
      exact ⟨h.1, fun hany => h.2 (anyHolds_imp (ih.2 hn) hany)⟩
    · intro hn h
      exact ⟨h.1, fun hany => h.2 (anyHolds_imp (ih.1 hn) hany)⟩

def visitors (beta : Condition) : Expression :=
  group .andNot [always, group .andNot [condition ⟨"plan", .eq, .string "paid"⟩, condition beta]]

/-- A number is no list, so the second condition lets nobody in. -/
theorem visitors_degraded :
    Degraded (.ofList [("plan", .string "free")]) 2 (visitors ⟨"beta", .eq, .bool true⟩)
        (visitors ⟨"beta", .notOneOf, .int 1⟩) ∧
      (visitors ⟨"beta", .notOneOf, .int 1⟩).holds (.ofList [("plan", .string "free")]) = true ∧
      (visitors ⟨"beta", .eq, .bool true⟩).holds (.ofList [("plan", .string "free")]) = true := by
  have hdegraded : Degraded (.ofList [("plan", .string "free")]) 2
      (visitors ⟨"beta", .eq, .bool true⟩) (visitors ⟨"beta", .notOneOf, .int 1⟩) :=
    .excluded [] [] (.excluded [] [] (.condition (.operand rfl)))
  have hholds : (visitors ⟨"beta", .notOneOf, .int 1⟩).holds
      (.ofList [("plan", .string "free")]) = true := by decide
  exact ⟨hdegraded, hholds, hdegraded.holds_one_way.1 (by decide) hholds⟩

end Expression

end FeatureFlags.Targeting
