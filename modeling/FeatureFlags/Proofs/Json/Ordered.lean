import FeatureFlags.Json.Value
import Mathlib.Data.String.Basic

namespace FeatureFlags

namespace Fields

variable {α : Type} {fields earlier : Fields String α} {name : String} {value : α}

theorem insert_of_forall_lt (h : ∀ p ∈ fields, p.1 < name) :
    fields.insert name value = fields ++ [(name, value)] := by
  induction fields with
  | nil => rfl
  | cons head rest ih =>
    obtain ⟨key, old⟩ := head
    have hkey : key < name := h (key, old) List.mem_cons_self
    rw [insert, if_neg hkey.ne', if_neg (lt_asymm hkey),
      ih fun p hp => h p (List.mem_cons_of_mem _ hp)]
    rfl

theorem foldl_insert_eq_append (h : Ordered (earlier ++ fields)) :
    fields.foldl (fun fields p => fields.insert p.1 p.2) earlier = earlier ++ fields := by
  induction fields generalizing earlier with
  | nil => exact (List.append_nil earlier).symm
  | cons head rest ih =>
    obtain ⟨name, value⟩ := head
    have hlast : ∀ p ∈ earlier, p.1 < name := fun p hp =>
      (List.pairwise_append.1 h).2.2 p hp (name, value) List.mem_cons_self
    rw [List.append_cons] at h
    rw [List.foldl_cons, insert_of_forall_lt hlast, ih h, ← List.append_cons]

theorem Ordered.ofList_eq (h : Ordered fields) : ofList fields = fields :=
  foldl_insert_eq_append h

theorem get?_eq_lookup (name : String) (fields : Fields String α) :
    fields.get? name = List.lookup name fields := by
  induction fields with
  | nil => rfl
  | cons head rest ih =>
    obtain ⟨key, value⟩ := head
    rw [get?, List.lookup_cons]
    by_cases h : key = name
    · simp [h]
    · rw [if_neg h, beq_false_of_ne (Ne.symm h), ih]

theorem get?_foldl_insert {pairs : List (String × α)} (h : (pairs.map Prod.fst).Nodup) :
    (pairs.foldl (fun fields p => fields.insert p.1 p.2) fields).get? name =
      (List.lookup name pairs).or (fields.get? name) := by
  induction pairs generalizing fields with
  | nil => rfl
  | cons p pairs ih =>
    obtain ⟨key, value⟩ := p
    obtain ⟨hkey, hpairs⟩ := List.nodup_cons.1 h
    rw [List.foldl_cons, ih hpairs, get?_insert, List.lookup_cons]
    by_cases heq : key = name
    · subst heq
      have hnone : List.lookup key pairs = none := by
        rw [List.lookup_eq_none_iff]
        exact fun q hq => by simpa using fun he => hkey (List.mem_map.2 ⟨q, hq, he.symm⟩)
      simp [hnone]
    · rw [if_neg heq, beq_false_of_ne (Ne.symm heq)]

theorem get?_ofList {pairs : List (String × α)} (h : (pairs.map Prod.fst).Nodup) :
    (ofList pairs).get? name = List.lookup name pairs :=
  (get?_foldl_insert h).trans (Option.or_none ..)

end Fields

theorem Map.ofList_entries {α : Type} (m : Map String α) : Map.ofList m.entries = m := by
  obtain ⟨entries, hordered⟩ := m
  simp only [Map.ofList, hordered.ofList_eq]

namespace Json

mutual

theorem Ordered.sorted_eq (v : Json) (h : v.Ordered) : v.sorted = v := by
  cases v with
  | null | bool | number | string => rfl
  | array items => rw [sorted, itemsSorted_eq items h]
  | object members => rw [sorted, membersSorted_eq members h.2, ofMembers, h.1.ofList_eq]

theorem itemsSorted_eq (items : List Json) (h : ItemsOrdered items) :
    itemsSorted items = items := by
  cases items with
  | nil => rfl
  | cons v items => rw [itemsSorted, Ordered.sorted_eq v h.1, itemsSorted_eq items h.2]

theorem membersSorted_eq (members : List (String × Json)) (h : MembersOrdered members) :
    membersSorted members = members := by
  cases members with
  | nil => rfl
  | cons p members =>
    obtain ⟨name, v⟩ := p
    rw [membersSorted, Ordered.sorted_eq v h.1, membersSorted_eq members h.2]

end

@[simp] theorem Value.value_json (v : Value) : v.json.value = v := by
  obtain ⟨json, hordered⟩ := v
  simp only [value, hordered.sorted_eq]

namespace Document

mutual

/-- An ordered value is the one that its document stands for. -/
theorem toJson?_ofJson (v : Json) (h : v.Ordered) : toJson? (ofJson v) = some v := by
  cases v with
  | null | bool | number | string => rfl
  | array items => simp [ofJson, toJson?, itemsToJson?_ofItems items h]
  | object members =>
    simp [ofJson, toJson?, membersToJson?_ofMembers members h.2, Json.ofMembers, h.1.ofList_eq]

theorem itemsToJson?_ofItems (items : List Json) (h : ItemsOrdered items) :
    itemsToJson? (ofItems items) = some items := by
  cases items with
  | nil => rfl
  | cons v items =>
    simp [ofItems, itemsToJson?, toJson?_ofJson v h.1, itemsToJson?_ofItems items h.2]

theorem membersToJson?_ofMembers (members : List (String × Json)) (h : MembersOrdered members) :
    membersToJson? (ofMembers members) = some members := by
  cases members with
  | nil => rfl
  | cons p members =>
    obtain ⟨name, v⟩ := p
    simp [ofMembers, membersToJson?, toJson?_ofJson v h.1,
      membersToJson?_ofMembers members h.2]

end

theorem value?_ofJson (v : Value) : value? (ofJson v.json) = some v :=
  Option.pmap_eq_some_iff.2 ⟨v.json, v.ordered, toJson?_ofJson v.json v.ordered, rfl⟩

end Document

end Json

end FeatureFlags
