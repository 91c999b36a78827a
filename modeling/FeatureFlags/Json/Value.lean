import FeatureFlags.Json.Document

namespace FeatureFlags.Json

mutual

/-- The members of every object stand in order, each name once. -/
def Ordered : Json → Prop
  | array items => ItemsOrdered items
  | object members => Fields.Ordered members ∧ MembersOrdered members
  | _ => True

def ItemsOrdered : List Json → Prop
  | [] => True
  | v :: items => v.Ordered ∧ ItemsOrdered items

def MembersOrdered : List (String × Json) → Prop
  | [] => True
  | (_, v) :: members => v.Ordered ∧ MembersOrdered members

end

theorem MembersOrdered.insert {fields : Fields String Json} {name : String} {v : Json}
    (h : MembersOrdered fields) (hv : v.Ordered) : MembersOrdered (fields.insert name v) := by
  induction fields with
  | nil => exact ⟨hv, trivial⟩
  | cons head rest ih =>
    obtain ⟨key, old⟩ := head
    simp only [Fields.insert]
    split
    · exact ⟨hv, h.2⟩
    · split
      · exact ⟨hv, h⟩
      · exact ⟨h.1, ih h.2⟩

theorem ordered_ofMembers {members : List (String × Json)} (h : MembersOrdered members) :
    (ofMembers members).Ordered := by
  refine ⟨Fields.ordered_ofList members, ?_⟩
  suffices hfold : ∀ fields : Fields String Json, MembersOrdered fields →
      MembersOrdered (members.foldl (fun fields p => Fields.insert p.1 p.2 fields) fields) from
    hfold [] trivial
  induction members with
  | nil => exact fun _ hfields => hfields
  | cons p members ih => exact fun fields hfields => ih h.2 _ (hfields.insert h.1)

mutual

/-- The same members in order; of members with one name the last stays. -/
def sorted : Json → Json
  | array items => array (itemsSorted items)
  | object members => ofMembers (membersSorted members)
  | v => v

def itemsSorted : List Json → List Json
  | [] => []
  | v :: items => v.sorted :: itemsSorted items

def membersSorted : List (String × Json) → List (String × Json)
  | [] => []
  | (name, v) :: members => (name, v.sorted) :: membersSorted members

end

mutual

theorem sorted_ordered (v : Json) : v.sorted.Ordered := by
  cases v with
  | null | bool | number | string => trivial
  | array items => exact itemsSorted_ordered items
  | object members => exact ordered_ofMembers (membersSorted_ordered members)

theorem itemsSorted_ordered (items : List Json) : ItemsOrdered (itemsSorted items) := by
  cases items with
  | nil => trivial
  | cons v items => exact ⟨sorted_ordered v, itemsSorted_ordered items⟩

theorem membersSorted_ordered (members : List (String × Json)) :
    MembersOrdered (membersSorted members) := by
  cases members with
  | nil => trivial
  | cons p members => exact ⟨sorted_ordered p.2, membersSorted_ordered members⟩

end

/-- Values as attributes and operands hold them. -/
structure Value where
  json : Json
  ordered : json.Ordered

def value (v : Json) : Value := ⟨v.sorted, v.sorted_ordered⟩

namespace Value

instance : Coe Json Value := ⟨value⟩
instance : CoeOut Value Json := ⟨json⟩

def null : Value := ⟨.null, trivial⟩

def bool (b : Bool) : Value := ⟨.bool b, trivial⟩

def int (n : Int) : Value := ⟨.int n, trivial⟩

def string (s : String) : Value := ⟨.string s, trivial⟩

@[simp] theorem json_int (n : Int) : (int n).json = .int n := rfl
@[simp] theorem json_string (s : String) : (string s).json = .string s := rfl

theorem itemsOrdered (items : List Value) : ItemsOrdered (items.map json) := by
  induction items with
  | nil => trivial
  | cons v items ih => exact ⟨v.ordered, ih⟩

def array (items : List Value) : Value := ⟨.array (items.map json), itemsOrdered items⟩

@[simp] theorem json_array (items : List Value) :
    (array items).json = .array (items.map json) := rfl

theorem membersOrdered (members : List (String × Value)) :
    MembersOrdered (members.map fun p => (p.1, p.2.json)) := by
  induction members with
  | nil => trivial
  | cons p members ih => exact ⟨p.2.ordered, ih⟩

def ofMembers (members : List (String × Value)) : Value :=
  ⟨.ofMembers (members.map fun p => (p.1, p.2.json)), ordered_ofMembers (membersOrdered members)⟩

end Value

namespace Document

mutual

/-- Whatever a document stands for is ordered. -/
theorem ordered_of_toJson? (document : Document) {v : Json} (h : document.toJson? = some v) :
    v.Ordered := by
  cases document with
  | null | bool | number | string =>
    cases h
    trivial
  | array items =>
    obtain ⟨values, hvalues, hv⟩ := Option.bind_eq_some_iff.1 h
    cases hv
    exact ordered_of_itemsToJson? items hvalues
  | object members =>
    obtain ⟨values, hvalues, hv⟩ := Option.bind_eq_some_iff.1 h
    cases hv
    exact ordered_ofMembers (ordered_of_membersToJson? members hvalues)
  | unreadable => cases h

theorem ordered_of_itemsToJson? (items : List Document) {values : List Json}
    (h : itemsToJson? items = some values) : ItemsOrdered values := by
  cases items with
  | nil =>
    cases h
    trivial
  | cons d items =>
    obtain ⟨v, hv, h⟩ := Option.bind_eq_some_iff.1 h
    obtain ⟨values, hvalues, h⟩ := Option.bind_eq_some_iff.1 h
    cases h
    exact ⟨ordered_of_toJson? d hv, ordered_of_itemsToJson? items hvalues⟩

theorem ordered_of_membersToJson? (members : List (String × Document))
    {values : List (String × Json)} (h : membersToJson? members = some values) :
    MembersOrdered values := by
  cases members with
  | nil =>
    cases h
    trivial
  | cons p members =>
    obtain ⟨name, d⟩ := p
    obtain ⟨v, hv, h⟩ := Option.bind_eq_some_iff.1 h
    obtain ⟨values, hvalues, h⟩ := Option.bind_eq_some_iff.1 h
    cases h
    exact ⟨ordered_of_toJson? d hv, ordered_of_membersToJson? members hvalues⟩

end

def value? (d : Document) : Option Value := d.toJson?.pmap Value.mk fun _ => d.ordered_of_toJson?

end Document

end FeatureFlags.Json
