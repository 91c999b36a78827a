import Mathlib.Data.List.Pairwise

namespace FeatureFlags.Sorting

variable {α κ : Type} {key : α → κ} {l l' : List α} {a b : α} {k : κ}

section Keys

variable [DecidableEq κ]

/-- The elements with a key, in their order. -/
def under (key : α → κ) (k : κ) (l : List α) : List α := l.filter (key · = k)

theorem mem_under : a ∈ under key k l ↔ a ∈ l ∧ key a = k := by
  rw [under, List.mem_filter, decide_eq_true_eq]

theorem under_cons_self (key : α → κ) (a : α) (l : List α) :
    under key (key a) (a :: l) = a :: under key (key a) l :=
  List.filter_cons_of_pos (decide_eq_true rfl)

theorem under_of_cons (h : under key k (a :: l) = under key k (a :: l')) :
    under key k l = under key k l' := by
  rw [under, under, List.filter_cons, List.filter_cons] at h
  split at h
  · exact (List.cons.inj h).2
  · exact h

theorem under_filter (keep : α → Bool) (k : κ) (l : List α) :
    under key k (l.filter keep) = (under key k l).filter keep := by
  rw [under, under, List.filter_filter, List.filter_filter]
  exact List.filter_congr fun a _ => Bool.and_comm _ _

theorem mem_of_under (h : ∀ k, under key k l = under key k l') (ha : a ∈ l) : a ∈ l' := by
  have hunder : a ∈ under key (key a) l := mem_under.2 ⟨ha, rfl⟩
  rw [h] at hunder
  exact (mem_under.1 hunder).1

end Keys

variable [LE κ] [Std.IsLinearOrder κ]

def SortedOn (key : α → κ) (l : List α) : Prop := l.Pairwise fun a b => key a ≤ key b

theorem SortedOn.head_le (hl : SortedOn key (b :: l)) (ha : a ∈ b :: l) : key b ≤ key a := by
  rcases List.mem_cons.1 ha with rfl | ha
  · exact Std.le_refl (key a)
  · exact (List.pairwise_cons.1 hl).1 a ha

/-- What a list holds under each key leaves one way to sort it. -/
theorem SortedOn.eq_of_under [DecidableEq κ] (hl : SortedOn key l) (hl' : SortedOn key l')
    (h : ∀ k, under key k l = under key k l') : l = l' := by
  induction l generalizing l' with
  | nil =>
    cases l' with
    | nil => rfl
    | cons b l' =>
      have hb : b ∈ [] := mem_of_under (fun k => (h k).symm) List.mem_cons_self
      cases hb
  | cons a l ih =>
    cases l' with
    | nil =>
      have ha : a ∈ [] := mem_of_under h List.mem_cons_self
      cases ha
    | cons b l' =>
      have ha : a ∈ b :: l' := mem_of_under h List.mem_cons_self
      have hb : b ∈ a :: l := mem_of_under (fun k => (h k).symm) List.mem_cons_self
      have hkey : key a = key b := Std.le_antisymm (hl.head_le hb) (hl'.head_le ha)
      have hfirst := h (key a)
      rw [under_cons_self, hkey, under_cons_self] at hfirst
      obtain rfl : a = b := (List.cons.inj hfirst).1
      rw [ih (List.pairwise_cons.1 hl).2 (List.pairwise_cons.1 hl').2 fun k => under_of_cons (h k)]

variable [DecidableLE κ]

theorem decide_le_trans (key : α → κ) (a b c : α) (hab : decide (key a ≤ key b) = true)
    (hbc : decide (key b ≤ key c) = true) : decide (key a ≤ key c) = true := by
  rw [decide_eq_true_eq] at *
  exact Std.le_trans hab hbc

theorem decide_le_total (key : α → κ) (a b : α) :
    (decide (key a ≤ key b) || decide (key b ≤ key a)) = true := by
  rw [Bool.or_eq_true, decide_eq_true_eq, decide_eq_true_eq]
  exact Std.le_total

def sortOn (key : α → κ) (l : List α) : List α := l.mergeSort fun a b => decide (key a ≤ key b)

theorem sortOn_sorted (key : α → κ) (l : List α) : SortedOn key (sortOn key l) :=
  (List.pairwise_mergeSort (decide_le_trans key) (decide_le_total key) l).imp of_decide_eq_true

variable [DecidableEq κ]

theorem under_sortOn (key : α → κ) (k : κ) (l : List α) :
    under key k (sortOn key l) = under key k l := by
  have hsame : (under key k l).Pairwise fun a b => decide (key a ≤ key b) = true := by
    apply List.pairwise_of_forall_mem_list
    intro a ha b hb
    rw [decide_eq_true_eq, (mem_under.1 ha).2, (mem_under.1 hb).2]
    exact Std.le_refl k
  have hsub : (under key k l).Sublist (sortOn key l) :=
    List.sublist_mergeSort (decide_le_trans key) (decide_le_total key) hsame List.filter_sublist
  have hsub' := hsub.filter (key · = k)
  have hself : (under key k l).filter (key · = k) = under key k l :=
    List.filter_eq_self.2 fun a ha => decide_eq_true (mem_under.1 ha).2
  rw [hself] at hsub'
  exact (hsub'.eq_of_length ((List.mergeSort_perm l _).filter _).length_eq.symm).symm

theorem sortOn_congr (h : ∀ k, under key k l = under key k l') : sortOn key l = sortOn key l' := by
  apply (sortOn_sorted key l).eq_of_under (sortOn_sorted key l')
  intro k
  rw [under_sortOn, under_sortOn, h]

theorem filter_sortOn (keep : α → Bool) (key : α → κ) (l : List α) :
    (sortOn key l).filter keep = sortOn key (l.filter keep) := by
  have hsorted : SortedOn key ((sortOn key l).filter keep) := (sortOn_sorted key l).filter keep
  apply hsorted.eq_of_under (sortOn_sorted key (l.filter keep))
  intro k
  rw [under_filter, under_sortOn, under_sortOn, under_filter]

end FeatureFlags.Sorting
