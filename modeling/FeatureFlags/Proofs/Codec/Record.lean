import FeatureFlags.Codec.Feature
import FeatureFlags.Proofs.Json.Ordered
import FeatureFlags.Proofs.Time.Spelling
import FeatureFlags.Proofs.Uuid
import Mathlib.Data.List.Nodup

namespace FeatureFlags.Json.Document

variable {α : Type} {name : String} {names : List String} {pairs : List (String × Json)}
  {members : List (String × Document)} {v : Json}

theorem ofMembers_eq_map (members : List (String × Json)) :
    ofMembers members = members.map fun p => (p.1, ofJson p.2) := by
  induction members with
  | nil => rfl
  | cons p members ih =>
    obtain ⟨name, v⟩ := p
    rw [ofMembers, ih]
    rfl

theorem ofItems_eq_map (items : List Json) : ofItems items = items.map ofJson := by
  induction items with
  | nil => rfl
  | cons v items ih =>
    rw [ofItems, ih]
    rfl

theorem lookup_map (f : Json → α) (members : List (String × Json)) :
    List.lookup name (members.map fun p => (p.1, f p.2)) = (List.lookup name members).map f := by
  induction members with
  | nil => rfl
  | cons p members ih =>
    rw [List.map_cons, List.lookup_cons, List.lookup_cons, ih]
    cases name == p.1 <;> rfl

theorem lookup_filter_contains (h : name ∈ names) :
    List.lookup name (members.filter fun p => names.contains p.1) = List.lookup name members := by
  induction members with
  | nil => rfl
  | cons p members ih =>
    rw [List.filter_cons, List.lookup_cons]
    split
    · rw [List.lookup_cons, ih]
    · next hp =>
      have hne : (name == p.1) = false := by
        rw [beq_eq_false_iff_ne]
        rintro rfl
        exact hp (List.contains_iff_mem.2 h)
      rw [ih, hne]

/-- What was written as a record of some names is read as one. -/
theorem exists_record (names : List String) (hv : v = .ofMembers pairs)
    (hnames : pairs.map Prod.fst = names) (hnodup : names.Nodup) :
    ∃ r, (ofJson v).record? names = some r ∧
      ∀ name ∈ names, List.lookup name r = (List.lookup name pairs).map ofJson := by
  subst hv hnames
  let members := (Fields.ofList pairs).map fun p => (p.1, ofJson p.2)
  let known := members.filter fun p => (pairs.map Prod.fst).contains p.1
  have hmembers : ofJson (.ofMembers pairs) = object members := by
    rw [Json.ofMembers, ofJson, ofMembers_eq_map]
  have hknown : (known.map Prod.fst).Nodup := by
    have hall : (members.map Prod.fst).Nodup := by
      simpa [members, Function.comp_def] using (Fields.ordered_ofList pairs).nodup
    exact hall.sublist (List.filter_sublist.map _)
  refine ⟨known, ?_, ?_⟩
  · rw [hmembers, record?]
    exact if_pos hknown
  · intro name hname
    rw [lookup_filter_contains hname, lookup_map, ← Fields.get?_eq_lookup,
      Fields.get?_ofList hnodup]

section Readers

@[simp] theorem string?_ofJson (s : String) : string? (ofJson (.string s)) = some s := rfl

@[simp] theorem bool?_ofJson (b : Bool) : bool? (ofJson (.bool b)) = some b := rfl

@[simp] theorem choice?_ofJson (s : String) : choice? (ofJson (.string s)) = some s := rfl

@[simp] theorem uuid?_ofJson (u : Uuid) : uuid? (ofJson u.toJson) = some u := by
  rw [uuid?, Uuid.toJson, string?_ofJson, Option.bind_some, u.parse?_write]

theorem timestamp?_ofJson {t : Time.Timestamp} (h : t.leap = false) :
    timestamp? (ofJson t.toJson) = some t := by
  rw [timestamp?, Time.Timestamp.toJson, string?_ofJson, Option.bind_some, t.parse?_write h]

theorem integer?_ofJson {least greatest n : Int} (h : least ≤ n ∧ n ≤ greatest) :
    integer? least greatest (ofJson (.int n)) = some n := if_pos h

@[simp] theorem int32?_ofJson (n : Int32) : int32? (ofJson (.int n.toInt)) = some n := by
  rw [int32?, integer?_ofJson ⟨n.minValue_le_toInt, n.toInt_le⟩, Option.map_some, Int32.ofInt_toInt]

@[simp] theorem int64?_ofJson (n : Int64) : int64? (ofJson (.int n.toInt)) = some n := by
  rw [int64?, integer?_ofJson ⟨n.minValue_le_toInt, n.toInt_le⟩, Option.map_some, Int64.ofInt_toInt]

@[simp] theorem uint8?_ofJson (n : UInt8) : uint8? (ofJson (.int n.toNat)) = some n := by
  have hn : n.toNat < UInt8.size := n.toNat_lt
  rw [uint8?, integer?_ofJson ⟨by omega, by omega⟩]
  simp

@[simp] theorem uint64?_ofJson (n : UInt64) : uint64? (ofJson (.int n.toNat)) = some n := by
  have hn : n.toNat < UInt64.size := n.toNat_lt
  rw [uint64?, integer?_ofJson ⟨by omega, by omega⟩]
  simp

theorem option?_ofJson {read : Document → Option α} {write : α → Json} {o : Option α}
    (hread : ∀ a ∈ o, read (ofJson (write a)) = some a) (hnull : read null = none) :
    option? read (ofJson (.ofOption write o)) = some o := by
  cases o with
  | none => rfl
  | some a =>
    have ha := hread a rfl
    rw [Json.ofOption, option?]
    · rw [ha, Option.map_some]
    · intro hd
      rw [hd, hnull] at ha
      cases ha

theorem list?_ofJson {read : Document → Option α} {write : α → Json} (as : List α)
    (h : ∀ a ∈ as, read (ofJson (write a)) = some a) :
    list? read (ofJson (.array (as.map write))) = some as := by
  rw [ofJson, ofItems_eq_map, list?]
  induction as with
  | nil => rfl
  | cons a as ih =>
    rw [List.map_cons, List.map_cons, List.mapM_cons, h a List.mem_cons_self,
      ih fun b hb => h b (List.mem_cons_of_mem _ hb)]
    rfl

end Readers

end FeatureFlags.Json.Document
