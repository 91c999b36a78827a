namespace FeatureFlags

/-- Values under names, in increasing order of name where each name comes once. -/
abbrev Fields (ν α : Type) := List (ν × α)

namespace Fields

variable {ν α : Type} {fields : Fields ν α} {name : ν} {value : α}

section

variable [DecidableEq ν]

def get? (name : ν) : Fields ν α → Option α
  | [] => none
  | (key, value) :: rest => if key = name then some value else get? name rest

@[simp] theorem get?_nil (name : ν) : get? name ([] : Fields ν α) = none := rfl

theorem mem_of_get?_eq_some (h : fields.get? name = some value) : (name, value) ∈ fields := by
  induction fields with
  | nil => cases h
  | cons head rest ih =>
    obtain ⟨key, old⟩ := head
    rw [get?] at h
    split at h
    · next heq =>
      cases h
      exact heq ▸ List.mem_cons_self
    · exact List.mem_cons_of_mem _ (ih h)

variable [LT ν] [DecidableLT ν]

def insert (name : ν) (value : α) : Fields ν α → Fields ν α
  | [] => [(name, value)]
  | (key, old) :: rest =>
    if name = key then (name, value) :: rest
    else if name < key then (name, value) :: (key, old) :: rest
    else (key, old) :: insert name value rest

/-- Of several values under one name the last stays. -/
def ofList (pairs : List (ν × α)) : Fields ν α :=
  pairs.foldl (fun fields (name, value) => fields.insert name value) []

theorem get?_insert (name key : ν) (value : α) (fields : Fields ν α) :
    (fields.insert key value).get? name = if key = name then some value else fields.get? name := by
  induction fields with
  | nil => rfl
  | cons head rest ih =>
    obtain ⟨other, old⟩ := head
    simp only [insert]
    split
    · rename_i h
      subst h
      simp only [get?]
      split <;> rfl
    · split
      · rfl
      · rename_i hne _
        simp only [get?, ih]
        split
        · rename_i ho
          subst ho
          rw [if_neg hne]
        · rfl

theorem insert_ne_nil : fields.insert name value ≠ [] := by
  cases fields with
  | nil => exact List.cons_ne_nil _ _
  | cons head rest =>
    simp only [insert]
    split
    · exact List.cons_ne_nil _ _
    · split <;> exact List.cons_ne_nil _ _

theorem eq_or_mem_of_mem_insert {p : ν × α} (h : p ∈ fields.insert name value) :
    p = (name, value) ∨ p ∈ fields := by
  induction fields with
  | nil => exact .inl (List.mem_singleton.1 h)
  | cons head rest ih =>
    obtain ⟨key, old⟩ := head
    simp only [insert] at h
    split at h
    · exact (List.mem_cons.1 h).imp_right (List.mem_cons_of_mem _)
    · split at h
      · exact List.mem_cons.1 h
      · rcases List.mem_cons.1 h with rfl | h
        · exact .inr List.mem_cons_self
        · exact (ih h).imp_right (List.mem_cons_of_mem _)

end

def Ordered [LT ν] (fields : Fields ν α) : Prop := fields.Pairwise fun a b => a.1 < b.1

variable [LE ν] [LT ν] [Std.LawfulOrderLT ν]

theorem Ordered.nodup (h : Ordered fields) : (fields.map Prod.fst).Nodup := by
  rw [List.nodup_iff_pairwise_ne, List.pairwise_map]
  exact h.imp Std.ne_of_lt

variable [DecidableEq ν]

theorem Ordered.get?_of_mem (h : Ordered fields) (hmem : (name, value) ∈ fields) :
    fields.get? name = some value := by
  induction fields with
  | nil => cases hmem
  | cons head rest ih =>
    obtain ⟨key, old⟩ := head
    obtain ⟨hkey, hrest⟩ := List.pairwise_cons.1 h
    rw [get?]
    rcases List.mem_cons.1 hmem with heq | hmem
    · cases heq
      exact if_pos rfl
    · rw [if_neg (Std.ne_of_lt (hkey _ hmem)), ih hrest hmem]

variable [DecidableLT ν] [Std.IsLinearOrder ν]

theorem Ordered.insert (h : Ordered fields) :
    Ordered (fields.insert name value) := by
  induction fields with
  | nil => exact List.pairwise_singleton ..
  | cons head rest ih =>
    obtain ⟨key, old⟩ := head
    obtain ⟨hkey, hrest⟩ := List.pairwise_cons.1 h
    simp only [Fields.insert]
    split
    · next heq => exact List.pairwise_cons.2 ⟨heq ▸ hkey, hrest⟩
    · next hne =>
      split
      · next hlt =>
        refine List.pairwise_cons.2 ⟨fun p hp => ?_, h⟩
        rcases List.mem_cons.1 hp with rfl | hp
        · exact hlt
        · exact Std.lt_trans hlt (hkey p hp)
      · next hnot =>
        have hgt : key < name := Std.lt_of_le_of_ne (Std.not_lt.1 hnot) (Ne.symm hne)
        refine List.pairwise_cons.2 ⟨fun p hp => ?_, ih hrest⟩
        rcases eq_or_mem_of_mem_insert hp with rfl | hp
        · exact hgt
        · exact hkey p hp

theorem Ordered.foldl_insert (h : Ordered fields) (pairs : List (ν × α)) :
    Ordered (pairs.foldl (fun fields p => fields.insert p.1 p.2) fields) := by
  induction pairs generalizing fields with
  | nil => exact h
  | cons p pairs ih => exact ih h.insert

theorem ordered_ofList (pairs : List (ν × α)) : Ordered (ofList pairs) :=
  Ordered.foldl_insert .nil pairs

end Fields

structure Map (ν α : Type) [LT ν] where
  entries : Fields ν α
  ordered : entries.Ordered

namespace Map

variable {ν α : Type} [LT ν]

def empty : Map ν α := ⟨[], .nil⟩

def values (m : Map ν α) : List α := m.entries.map (·.2)

def size (m : Map ν α) : Nat := m.entries.length

variable [DecidableEq ν]

def get? (m : Map ν α) (name : ν) : Option α := m.entries.get? name

@[simp] theorem get?_empty (name : ν) : (empty : Map ν α).get? name = none := rfl

def contains (m : Map ν α) (name : ν) : Bool := (m.get? name).isSome

variable [LE ν] [DecidableLT ν] [Std.IsLinearOrder ν] [Std.LawfulOrderLT ν]

def insert (m : Map ν α) (name : ν) (value : α) : Map ν α :=
  ⟨m.entries.insert name value, m.ordered.insert⟩

def ofList (pairs : List (ν × α)) : Map ν α := ⟨.ofList pairs, Fields.ordered_ofList pairs⟩

theorem get?_insert (m : Map ν α) (name key : ν) (value : α) :
    (m.insert key value).get? name = if key = name then some value else m.get? name :=
  Fields.get?_insert name key value m.entries

end Map

end FeatureFlags
