import FeatureFlags.Proofs.Targeting.Degraded

namespace FeatureFlags

namespace Binary64

variable {x y : Binary64}

theorem not_lt : ¬ x < y ↔ y ≤ x := Int.not_lt

theorem not_le : ¬ x ≤ y ↔ y < x := Int.not_le

theorem order_cases (x y : Binary64) :
    (y < x ∧ y ≤ x) ∨ (¬ y < x ∧ y ≤ x) ∨ (¬ y < x ∧ ¬ y ≤ x) := by
  simp only [lt_iff, le_iff]
  omega

end Binary64

namespace Json

/-- Lists are arrays, and strings with commas between the items. -/
def isList : Json → Bool
  | array _ | string _ => true
  | _ => false

theorem isSome_toTexts? (v : Json) : v.toTexts?.isSome = v.isList := by
  cases v <;> rfl

end Json

namespace Targeting

def ExactlyOne (answers : List Bool) : Prop := answers.count true = 1

instance (answers : List Bool) : Decidable (ExactlyOne answers) :=
  inferInstanceAs (Decidable (_ = _))

theorem exactlyOne_not (b : Bool) : ExactlyOne [b, !b] := by
  cases b <;> rfl

namespace Operator

variable {actual operand : Json} {a b : Binary64}

theorem exactlyOne_eq_neq (actual operand : Json) :
    ExactlyOne [eq.holds actual operand, neq.holds actual operand] :=
  exactlyOne_not (actual.text == operand.text)

theorem exactlyOne_oneOf_notOneOf (actual : Json) (h : operand.isList = true) :
    ExactlyOne [oneOf.holds actual operand, notOneOf.holds actual operand] := by
  rw [← Json.isSome_toTexts?, Option.isSome_iff_exists] at h
  obtain ⟨items, hitems⟩ := h
  rw [holds, holds, membership?, hitems]
  exact exactlyOne_not _

theorem exactlyOne_compares (ha : actual.toFinite? = some a) (hb : operand.toFinite? = some b) :
    ExactlyOne [gt.holds actual operand, lte.holds actual operand] ∧
      ExactlyOne [gte.holds actual operand, lt.holds actual operand] ∧
      ExactlyOne [gt.holds actual operand, lt.holds actual operand,
        gte.holds actual operand && lte.holds actual operand] := by
  have hlte : decide (a ≤ b) = !decide (b < a) := by
    rw [← decide_not, decide_eq_decide, Binary64.not_lt]
  have hlt : decide (a < b) = !decide (b ≤ a) := by
    rw [← decide_not, decide_eq_decide, Binary64.not_le]
  simp only [holds, compares_of_finite _ ha hb, hlte, hlt]
  refine ⟨exactlyOne_not _, exactlyOne_not _, ?_⟩
  rcases Binary64.order_cases a b with ⟨h, h'⟩ | ⟨h, h'⟩ | ⟨h, h'⟩
  · rw [decide_eq_true h, decide_eq_true h']
    rfl
  · rw [decide_eq_false h, decide_eq_true h']
    rfl
  · rw [decide_eq_false h, decide_eq_false h']
    rfl

end Operator

namespace Condition

theorem holds_of_get? {context : Context} {key : String} {actual : Json} {operand : Json.Value}
    (h : context.get? key = some actual) (op : Operator) :
    (Condition.mk key op operand).holds context = op.holds actual operand := by
  rw [holds, h, Option.any_some]

/-- Nothing matches an attribute that is missing. Of one that is there an operator or its complement
matches, and not both, if the operand is of the kind that they need, and none of them otherwise. -/
theorem operators_complement (context : Context) (key : String) (operand : Json.Value) :
    let answer (op : Operator) : Bool := (Condition.mk key op operand).holds context
    (context.get? key = none → ∀ op, answer op = false) ∧
      ∀ actual, context.get? key = some actual →
        ExactlyOne [answer .eq, answer .neq] ∧
        (operand.json.isList = true → ExactlyOne [answer .oneOf, answer .notOneOf]) ∧
        (operand.json.isList = false → answer .oneOf = false ∧ answer .notOneOf = false) ∧
        (∀ a b, actual.toFinite? = some a → operand.json.toFinite? = some b →
          ExactlyOne [answer .gt, answer .lte] ∧ ExactlyOne [answer .gte, answer .lt] ∧
          ExactlyOne [answer .gt, answer .lt, answer .gte && answer .lte] ∧
          (answer .gt = true ↔ b < a) ∧ (answer .lt = true ↔ a < b)) ∧
        (actual.toFinite? = none ∨ operand.json.toFinite? = none →
          answer .gt = false ∧ answer .gte = false ∧ answer .lt = false ∧ answer .lte = false) := by
  intro answer
  constructor
  · intro hmissing op
    have hvoid : (Condition.mk key op operand).Void context := .missing hmissing
    exact hvoid.holds
  · intro actual hactual
    have hanswer (op : Operator) : answer op = op.holds actual operand := holds_of_get? hactual op
    simp only [hanswer]
    refine ⟨Operator.exactlyOne_eq_neq actual operand,
      Operator.exactlyOne_oneOf_notOneOf actual, ?_, ?_, ?_⟩
    · intro hlist
      have hnone : operand.json.toTexts? = none := by
        rw [← Option.not_isSome_iff_eq_none, Json.isSome_toTexts?, hlist]
        exact Bool.false_ne_true
      have honeOf : Operator.oneOf.Malformed operand.json := hnone
      have hnotOneOf : Operator.notOneOf.Malformed operand.json := hnone
      exact ⟨honeOf.holds actual, hnotOneOf.holds actual⟩
    · intro a b ha hb
      obtain ⟨hgt, hlt, hthree⟩ := Operator.exactlyOne_compares ha hb
      refine ⟨hgt, hlt, hthree, ?_, ?_⟩
      · rw [Operator.holds, Operator.compares_of_finite _ ha hb, decide_eq_true_iff]
      · rw [Operator.holds, Operator.compares_of_finite _ ha hb, decide_eq_true_iff]
    · intro hnone
      exact ⟨Operator.compares_of_none _ hnone, Operator.compares_of_none _ hnone,
        Operator.compares_of_none _ hnone, Operator.compares_of_none _ hnone⟩

def settled : Context := .ofList [("balance", .number (.real (.zero true)))]

/-- The positive zero as a list of one item is no text of the negative one, but the same number. A
truth value is neither a list nor a number. -/
theorem operators_complement_settled :
    settled.get? "limit" = none ∧ (mk "limit" .neq (.string "0")).holds settled = false ∧
      settled.get? "balance" = some (.number (.real (.zero true))) ∧
      (Json.string "0").toFinite? = some (.zero false) ∧
      ExactlyOne [(mk "balance" .eq (.string "0")).holds settled,
        (mk "balance" .neq (.string "0")).holds settled] ∧
      ExactlyOne [(mk "balance" .oneOf (.string "0")).holds settled,
        (mk "balance" .notOneOf (.string "0")).holds settled] ∧
      (mk "balance" .gt (.string "0")).holds settled = false ∧
      (mk "balance" .lt (.string "0")).holds settled = false ∧
      ExactlyOne [(mk "balance" .gt (.string "0")).holds settled,
        (mk "balance" .lte (.string "0")).holds settled] ∧
      (mk "balance" .notOneOf (.bool true)).holds settled = false ∧
      (mk "balance" .lte (.bool true)).holds settled = false := by
  have hbalance : settled.get? "balance" = some (.number (.real (.zero true))) := rfl
  have hzero : (Json.string "0").toFinite? = some (.zero false) := by decide
  obtain ⟨hmissing, _⟩ := operators_complement settled "limit" (.string "0")
  obtain ⟨_, hthere⟩ := operators_complement settled "balance" (.string "0")
  obtain ⟨hequal, hlist, _, hnumbers, _⟩ := hthere _ hbalance
  obtain ⟨hgt, _, _, hgreater, hless⟩ := hnumbers _ _ rfl hzero
  obtain ⟨_, _, hnoList, _, hnoNumber⟩ :=
    (operators_complement settled "balance" (.bool true)).2 _ hbalance
  refine ⟨rfl, hmissing rfl .neq, hbalance, hzero, hequal, hlist rfl, ?_, ?_, hgt,
    (hnoList rfl).2, (hnoNumber (.inr rfl)).2.2.2⟩
  · exact Bool.eq_false_iff.2 fun h => absurd (hgreater.1 h) (by decide)
  · exact Bool.eq_false_iff.2 fun h => absurd (hless.1 h) (by decide)

end Condition

end Targeting

end FeatureFlags
