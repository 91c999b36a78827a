import FeatureFlags.Proofs.Text.Padding
import FeatureFlags.Targeting.Condition

namespace FeatureFlags

namespace Json

variable {items : List Value} {parts : List String}

/-- The texts of values, each with blanks around it. -/
def Spelled (items : List Value) (parts : List String) : Prop :=
  List.Forall₂ (fun item part => Text.Padded item.json.text.toList part.toList) items parts

theorem Spelled.padded (h : Spelled items parts) :
    List.Forall₂ Text.Padded (items.map fun item => item.json.text.toList)
      (parts.map String.toList) :=
  List.forall₂_map_left_iff.2 (List.forall₂_map_right_iff.2 h)

theorem toTexts?_joined (parts : List String) :
    (string (",".intercalate parts)).toTexts? =
      some (((Text.splitAt ',' (Text.joinWith ',' (parts.map String.toList))).map
        Text.trimChars).map String.ofList) := by
  rw [toTexts?, String.toList_intercalate, Text.joinWith_eq_intercalate, List.map_map]
  rfl

theorem Spelled.toTexts?_eq_iff (h : Spelled items parts) :
    (Value.string (",".intercalate parts)).json.toTexts? = (Value.array items).json.toTexts? ↔
      items ≠ [] ∧ ∀ item ∈ items, Text.Separable ',' item.json.text.toList := by
  have htexts : (items.map Value.json).map text =
      (items.map fun item => item.json.text.toList).map String.ofList := by
    simp
  rw [Value.json_string, Value.json_array, toTexts?_joined, toTexts?, Option.some.injEq, htexts,
    (List.map_injective_iff.2 fun _ _ => String.ofList_injective).eq_iff]
  by_cases hne : items = []
  · subst hne
    cases h
    simp [Text.joinWith, Text.splitAt]
  · rw [Text.map_splitAt_joinWith_iff (by decide) (by simpa using hne) h.padded]
    simp [hne]

end Json

namespace Targeting.Condition

open Json

theorem holds_eq_of_toTexts?_eq {operand operand' : Value} {op : Operator} {context : Context}
    {key : String} (hop : op = .oneOf ∨ op = .notOneOf)
    (h : operand.json.toTexts? = operand'.json.toTexts?) :
    (Condition.mk key op operand).holds context = (Condition.mk key op operand').holds context := by
  have hmembership (actual : Json) :
      Operator.membership? actual operand = Operator.membership? actual operand' := by
    rw [Operator.membership?, Operator.membership?, h]
  rw [holds, holds]
  rcases hop with rfl | rfl
  · simp only [Operator.holds, hmembership]
  · simp only [Operator.holds, hmembership]

/-- A list of texts without commas and blanks at their ends may be written as an array or as a
string, with any blanks around the items: conditions on members match the same contexts. -/
theorem lists_spelled_alike {items : List Value} {parts : List String} (h : Spelled items parts) :
    ((Value.string (",".intercalate parts)).json.toTexts? = (Value.array items).json.toTexts? ↔
        items ≠ [] ∧ ∀ item ∈ items, Text.Separable ',' item.json.text.toList) ∧
      (items ≠ [] → (∀ item ∈ items, Text.Separable ',' item.json.text.toList) →
        ∀ (context : Context) (key : String) (op : Operator), op = .oneOf ∨ op = .notOneOf →
          (Condition.mk key op (.string (",".intercalate parts))).holds context =
            (Condition.mk key op (.array items)).holds context) := by
  refine ⟨h.toTexts?_eq_iff, ?_⟩
  intro hne hitems context key op hop
  exact holds_eq_of_toTexts?_eq hop (h.toTexts?_eq_iff.2 ⟨hne, hitems⟩)

def regions : List Value := [.string "Ile de France", .int 75, .null]

def spelledRegions : List String := ["\u2003Ile de France ", "75", "\t "]

theorem lists_spelled_alike_regions :
    Spelled regions spelledRegions ∧ regions ≠ [] ∧
      (∀ item ∈ regions, Text.Separable ',' item.json.text.toList) ∧
      (mk "region" .oneOf (.string (",".intercalate spelledRegions))).holds
        (.ofList [("region", .string "75")]) = true ∧
      (mk "region" .notOneOf (.string (",".intercalate spelledRegions))).holds
        (.ofList [("region", .string "")]) = false := by
  have hspelled : Spelled regions spelledRegions :=
    .cons ⟨['\u2003'], [' '], rfl, rfl, rfl⟩
      (.cons (.refl _) (.cons ⟨[], ['\t', ' '], rfl, rfl, rfl⟩ .nil))
  have hitems : ∀ item ∈ regions, Text.Separable ',' item.json.text.toList := by decide
  have halike := (lists_spelled_alike hspelled).2 (by decide) hitems
  refine ⟨hspelled, by decide, hitems, ?_, ?_⟩
  · rw [halike _ _ _ (.inl rfl)]
    decide
  · rw [halike _ _ _ (.inr rfl)]
    decide

end Targeting.Condition

end FeatureFlags
