import FeatureFlags.Cron.Grammar
import FeatureFlags.Proofs.Text.Parts
import Mathlib.Data.List.Chain
import Mathlib.Data.List.Forall2
import Mathlib.Data.List.Pairwise

namespace FeatureFlags.Cron

variable {u : CalendarUnit} {w x y r : List Char} {n : Nat} {c m : Char}

structure Digits (x : List Char) (n : Nat) : Prop where
  ne_nil : x ≠ []
  all : ∀ c ∈ x, c.isDigit = true
  value : Text.decimalValue x = n
  small : n < UInt32.size

structure Numeral (x : List Char) (n : Nat) : Prop where
  ne_nil : x ≠ []
  all : ∀ c ∈ x, c.isDigit = true
  value : Text.decimalValue x = n

structure Letters (x : List Char) : Prop where
  ne_nil : x ≠ []
  all : ∀ c ∈ x, c.isAlpha = true

inductive Span.Spells (u : CalendarUnit) : Span → List Char → Prop
  | star : Spells u .all ['*']
  | any : u.mayBeAny = true → Spells u .all ['?']
  | point {x : List Char} {n : Nat} : Digits x n → Spells u (.point n) x
  | range {x y : List Char} {first last : Nat} : Digits x first → Digits y last →
      Spells u (.range first last) (x ++ '-' :: y)
  | namedRange {x y : List Char} : Letters x → Letters y →
      Spells u (.namedRange x y) (x ++ '-' :: y)

inductive Item.Spells (u : CalendarUnit) : Item → List Char → Prop
  | span {s : Span} {x : List Char} : s.Spells u x → Spells u (.span s) x
  | stepped {s : Span} {step : Nat} {x y : List Char} : s.Spells u x → Digits y step →
      Spells u (.stepped s step) (x ++ '/' :: y)
  | name {x : List Char} : Letters x → Spells u (.name x) x

def Spells (u : CalendarUnit) (items : List Item) (word : List Char) : Prop :=
  List.Forall₂ (Item.Spells u) items (Text.splitAt ',' word)

/-- The word is by itself a field of the unit. -/
def Field.Reads (u : CalendarUnit) (f : Field) (word : List Char) : Prop :=
  ∃ items, Spells u items word ∧ items.mapM (Item.progression? u) = some f.items

theorem exists_of_mem_right {α β : Type} {R : α → β → Prop} {xs : List α} {ys : List β} {y : β}
    (h : List.Forall₂ R xs ys) (hy : y ∈ ys) : ∃ x ∈ xs, R x y := by
  induction h with
  | nil => cases hy
  | cons hxy _ ih =>
    rcases List.mem_cons.1 hy with rfl | hy
    · exact ⟨_, List.mem_cons_self, hxy⟩
    · obtain ⟨x, hx, hxy⟩ := ih hy
      exact ⟨x, List.mem_cons_of_mem _ hx, hxy⟩

def isMark (c : Char) : Bool := c = ',' || c = '-' || c = '/'

/-- Not the end of one operand and the start of another. -/
def Fits (a b : Char) : Prop :=
  isMark a = true ∨ isMark b = true ∨ (a.isDigit = true ∧ b.isDigit = true) ∨
    (a.isAlpha = true ∧ b.isAlpha = true)

instance (a b : Char) : Decidable (Fits a b) :=
  inferInstanceAs (Decidable (_ ∨ _ ∨ (_ ∧ _) ∨ (_ ∧ _)))

/-- No mark at either end and no two operands side by side. -/
structure Separated (word : List Char) : Prop where
  chain : word.IsChain Fits
  head : ∀ c ∈ word.head?, isMark c = false
  last : ∀ c ∈ word.getLast?, isMark c = false

instance (word : List Char) : Decidable (Separated word) :=
  decidable_of_iff (word.IsChain Fits ∧ word.head?.all (!isMark ·) = true ∧
      word.getLast?.all (!isMark ·) = true) <| by
    simp only [Option.all_eq_true, Bool.not_eq_true']
    exact ⟨fun ⟨chain, head, last⟩ => ⟨chain, head, last⟩,
      fun ⟨chain, head, last⟩ => ⟨chain, head, last⟩⟩

theorem digits_singleton (h : c.isDigit = true) : Digits [c] (c.toNat - 48) := by
  refine ⟨List.cons_ne_nil _ _, List.forall_mem_singleton.2 h, ?_, ?_⟩
  · simp [Text.decimalValue]
  · simp only [Char.isDigit, Bool.and_eq_true, decide_eq_true_eq, UInt32.le_iff_toNat_le] at h
    have : '9'.val.toNat = 57 := rfl
    have : c.val.toNat = c.toNat := rfl
    rw [UInt32.size]
    omega

structure Operand (p : Char → Bool) : Prop where
  mark : ∀ c, isMark c = true → p c = false
  gap : ∀ c, Grammar.isGap c = true → p c = false
  kind : ∀ a b, p a = true → (p b = true ↔
    (a.isDigit = true ∧ b.isDigit = true) ∨ (a.isAlpha = true ∧ b.isAlpha = true))

variable {p : Char → Bool}

theorem isDigit_of_isAlpha (h : c.isAlpha = true) : c.isDigit = false := by
  have hletter : 'A'.val ≤ c.val := by
    rcases (Bool.or_eq_true _ _).mp h with hupper | hlower
    · exact (of_decide_eq_true hupper).1
    · have ha : 'a'.val ≤ c.val := of_decide_eq_true (Bool.and_eq_true_iff.1 hlower).1
      exact UInt32.le_trans (by decide) ha
  have hdigit : ¬ c.val ≤ '9'.val := fun hle => absurd (UInt32.le_trans hletter hle) (by decide)
  simp only [Char.isDigit, Bool.and_eq_false_iff, decide_eq_false_iff_not]
  exact .inr hdigit

theorem operand_isDigit : Operand Char.isDigit where
  mark c hc := by
    simp only [isMark, Bool.or_eq_true, decide_eq_true_eq] at hc
    rcases hc with (rfl | rfl) | rfl <;> rfl
  gap c hc := by
    simp only [Grammar.isGap, Bool.or_eq_true, decide_eq_true_eq] at hc
    rcases hc with ((rfl | rfl) | rfl) | rfl <;> rfl
  kind a b ha := by
    constructor
    · intro hb
      exact .inl ⟨ha, hb⟩
    · rintro (⟨_, hb⟩ | ⟨halpha, _⟩)
      · exact hb
      · rw [isDigit_of_isAlpha halpha] at ha
        cases ha

theorem operand_isAlpha : Operand Char.isAlpha where
  mark c hc := by
    simp only [isMark, Bool.or_eq_true, decide_eq_true_eq] at hc
    rcases hc with (rfl | rfl) | rfl <;> rfl
  gap c hc := by
    simp only [Grammar.isGap, Bool.or_eq_true, decide_eq_true_eq] at hc
    rcases hc with ((rfl | rfl) | rfl) | rfl <;> rfl
  kind a b ha := by
    constructor
    · intro hb
      exact .inr ⟨ha, hb⟩
    · rintro (⟨hdigit, _⟩ | ⟨_, hb⟩)
      · rw [isDigit_of_isAlpha ha] at hdigit
        cases hdigit
      · exact hb

namespace Operand

theorem isMark_eq_false (hp : Operand p) (hc : p c = true) : isMark c = false := by
  by_contra hmark
  rw [hp.mark c (eq_true_of_ne_false hmark)] at hc
  cases hc

theorem isGap_eq_false (hp : Operand p) (hc : p c = true) : Grammar.isGap c = false := by
  by_contra hgap
  rw [hp.gap c (eq_true_of_ne_false hgap)] at hc
  cases hc

theorem isMark_of_fits {a b : Char} (hp : Operand p) (ha : p a = true) (hb : p b = false)
    (hfits : Fits a b) : isMark b = true := by
  rcases hfits with hmark | hmark | hkind
  · rw [hp.isMark_eq_false ha] at hmark
    cases hmark
  · exact hmark
  · rw [(hp.kind a b ha).2 hkind] at hb
    cases hb

theorem separated (hp : Operand p) (hx : ∀ c ∈ x, p c = true) : Separated x where
  chain := by
    apply List.Pairwise.isChain
    apply List.pairwise_of_forall_mem_list
    intro a ha b hb
    exact .inr (.inr ((hp.kind a b (hx a ha)).1 (hx b hb)))
  head c hc := hp.isMark_eq_false (hx c (List.mem_of_mem_head? hc))
  last c hc := hp.isMark_eq_false (hx c (List.mem_of_mem_getLast? hc))

end Operand

theorem Digits.separated (h : Digits x n) : Separated x := operand_isDigit.separated h.all

theorem Letters.separated (h : Letters x) : Separated x := operand_isAlpha.separated h.all

theorem isChain_append_mark (hm : isMark m = true) :
    (x ++ m :: y).IsChain Fits ↔ x.IsChain Fits ∧ y.IsChain Fits := by
  rw [List.isChain_append, List.isChain_cons]
  constructor
  · rintro ⟨hx, ⟨_, hy⟩, _⟩
    exact ⟨hx, hy⟩
  · rintro ⟨hx, hy⟩
    refine ⟨hx, ⟨fun _ _ => .inl hm, hy⟩, fun _ _ b hb => .inr (.inl ?_)⟩
    cases hb
    exact hm

theorem Separated.append_mark (hx : Separated x) (hy : Separated y) (hxn : x ≠ []) (hyn : y ≠ [])
    (hm : isMark m = true) : Separated (x ++ m :: y) where
  chain := (isChain_append_mark hm).2 ⟨hx.chain, hy.chain⟩
  head := by
    rw [List.head?_append_of_ne_nil _ hxn]
    exact hx.head
  last := by
    rw [List.getLast?_append_of_ne_nil _ (List.cons_ne_nil _ _), List.getLast?_cons_of_ne_nil hyn]
    exact hy.last

theorem Span.Spells.separated {s : Span} (h : s.Spells u x) : x ≠ [] ∧ Separated x := by
  cases h with
  | star => decide
  | any => decide
  | point hx => exact ⟨hx.ne_nil, hx.separated⟩
  | range hx hy =>
    exact ⟨by simp, hx.separated.append_mark hy.separated hx.ne_nil hy.ne_nil rfl⟩
  | namedRange hx hy =>
    exact ⟨by simp, hx.separated.append_mark hy.separated hx.ne_nil hy.ne_nil rfl⟩

theorem Item.Spells.separated {i : Item} (h : i.Spells u x) : x ≠ [] ∧ Separated x := by
  cases h with
  | span hs => exact hs.separated
  | stepped hs hy =>
    exact ⟨by simp, hs.separated.2.append_mark hy.separated hs.separated.1 hy.ne_nil rfl⟩
  | name hx => exact ⟨hx.ne_nil, hx.separated⟩

theorem separated_joinWith {items : List Item} {parts : List (List Char)}
    (h : List.Forall₂ (Item.Spells u) items parts) (hne : parts ≠ []) :
    Text.joinWith ',' parts ≠ [] ∧ Separated (Text.joinWith ',' parts) := by
  induction h with
  | nil => exact absurd rfl hne
  | @cons i part items parts hi _ ih =>
    have hpart := hi.separated
    by_cases hnil : parts = []
    · subst hnil
      exact hpart
    · obtain ⟨hrestne, hrest⟩ := ih hnil
      rw [Text.joinWith_cons_cons ',' part parts hnil]
      exact ⟨by simp, hpart.2.append_mark hrest hpart.1 hrestne rfl⟩

/-- A word that spells a field is made of operands with marks between them. -/
theorem Spells.separated {items : List Item} (h : Spells u items w) : Separated w := by
  rw [← Text.joinWith_splitAt ',' w]
  exact (separated_joinWith h (Text.splitAt_ne_nil ',' w)).2

theorem Digits.numeral (h : Digits x n) : Numeral x n := ⟨h.ne_nil, h.all, h.value⟩

theorem Numeral.digits (h : Numeral x n) (hn : n < UInt32.size) : Digits x n :=
  ⟨h.ne_nil, h.all, h.value, hn⟩

theorem Numeral.notMem (h : Numeral x n) (hm : m.isDigit = false) : m ∉ x := by
  intro hmem
  rw [h.all m hmem] at hm
  cases hm

theorem Digits.notMem (h : Digits x n) (hm : m.isDigit = false) : m ∉ x := h.numeral.notMem hm

theorem Letters.notMem (h : Letters x) (hm : m.isAlpha = false) : m ∉ x := by
  intro hmem
  rw [h.all m hmem] at hm
  cases hm

theorem Span.Spells.notMem {s : Span} (h : s.Spells u x) (hm : m = ',' ∨ m = '/') : m ∉ x := by
  rcases hm with rfl | rfl <;>
  · cases h with
    | star => decide
    | any => decide
    | point hx => exact hx.notMem rfl
    | range hx hy => simp [hx.notMem, hy.notMem]
    | namedRange hx hy => simp [hx.notMem, hy.notMem]

theorem Item.Spells.notMem_comma {i : Item} (h : i.Spells u x) : ',' ∉ x := by
  cases h with
  | span hs => exact hs.notMem (.inl rfl)
  | stepped hs hy => simp [hs.notMem, hy.notMem]
  | name hx => exact hx.notMem rfl

theorem Span.Spells.isGap_eq_false {s : Span} (h : s.Spells u x) :
    ∀ c ∈ x, Grammar.isGap c = false := by
  intro c hc
  cases h with
  | star | any =>
    obtain rfl := List.mem_singleton.1 hc
    rfl
  | point hx => exact operand_isDigit.isGap_eq_false (hx.all c hc)
  | range hx hy =>
    rw [List.mem_append, List.mem_cons] at hc
    rcases hc with hc | rfl | hc
    · exact operand_isDigit.isGap_eq_false (hx.all c hc)
    · rfl
    · exact operand_isDigit.isGap_eq_false (hy.all c hc)
  | namedRange hx hy =>
    rw [List.mem_append, List.mem_cons] at hc
    rcases hc with hc | rfl | hc
    · exact operand_isAlpha.isGap_eq_false (hx.all c hc)
    · rfl
    · exact operand_isAlpha.isGap_eq_false (hy.all c hc)

theorem Item.Spells.isGap_eq_false {i : Item} (h : i.Spells u x) :
    ∀ c ∈ x, Grammar.isGap c = false := by
  intro c hc
  cases h with
  | span hs => exact hs.isGap_eq_false c hc
  | stepped hs hy =>
    rw [List.mem_append, List.mem_cons] at hc
    rcases hc with hc | rfl | hc
    · exact hs.isGap_eq_false c hc
    · rfl
    · exact operand_isDigit.isGap_eq_false (hy.all c hc)
  | name hx => exact operand_isAlpha.isGap_eq_false (hx.all c hc)

theorem Item.Spells.of_slash {i : Item} (h : i.Spells u (x ++ '/' :: y)) (hx : '/' ∉ x) :
    ∃ s step, i = .stepped s step ∧ s.Spells u x ∧ Digits y step := by
  generalize hz : x ++ '/' :: y = z at h
  have hslash : '/' ∈ z := by simp [← hz]
  cases h with
  | span hs => exact absurd hslash (hs.notMem (.inr rfl))
  | @stepped s step x' y' hs hy =>
    have hcut := Text.cutAt?_eq_some_iff.2 ⟨hz.symm, hx⟩
    have hcut' : Text.cutAt? '/' (x' ++ '/' :: y') = some (x', y') :=
      Text.cutAt?_eq_some_iff.2 ⟨rfl, hs.notMem (.inr rfl)⟩
    cases hcut.symm.trans hcut'
    exact ⟨s, step, rfl, hs, hy⟩
  | name hx => exact absurd hslash (hx.notMem rfl)

theorem skipGap_of_head (h : ∀ c ∈ w.head?, Grammar.isGap c = false) : Grammar.skipGap w = w := by
  cases w with
  | nil => rfl
  | cons c w => exact List.dropWhile_cons_of_neg (by simp [h c rfl])

theorem Operand.skipGap (hp : Operand p) (hne : x ≠ []) (hx : ∀ c ∈ x, p c = true) :
    Grammar.skipGap (x ++ r) = x ++ r := by
  apply skipGap_of_head
  intro c hc
  rw [List.head?_append_of_ne_nil _ hne] at hc
  exact hp.isGap_eq_false (hx c (List.mem_of_mem_head? hc))

theorem Digits.numberAt (h : Digits x n) (hr : ∀ c ∈ r.head?, c.isDigit = false) :
    Grammar.numberAt (x ++ r) = some (n, Grammar.skipGap r) := by
  obtain ⟨htake, hdrop⟩ := Text.takeWhile_append_of_head h.all hr
  have hskip : Grammar.skipGap (x ++ r) = x ++ r := operand_isDigit.skipGap h.ne_nil h.all
  have hvalid : ¬ (x.isEmpty = true ∨ UInt32.size ≤ n) := by
    rw [List.isEmpty_iff, not_or, not_le]
    exact ⟨h.ne_nil, h.small⟩
  simp only [Grammar.numberAt, hskip, htake, hdrop, h.value, if_neg hvalid]

theorem Letters.nameAt (h : Letters x) (hr : ∀ c ∈ r.head?, c.isAlpha = false) :
    Grammar.nameAt (x ++ r) = some (x, Grammar.skipGap r) := by
  obtain ⟨htake, hdrop⟩ := Text.takeWhile_append_of_head h.all hr
  have hskip : Grammar.skipGap (x ++ r) = x ++ r := operand_isAlpha.skipGap h.ne_nil h.all
  have hvalid : ¬ x.isEmpty = true := by
    rw [List.isEmpty_iff]
    exact h.ne_nil
  simp only [Grammar.nameAt, hskip, htake, hdrop, if_neg hvalid]

@[simp] theorem skipGap_nil : Grammar.skipGap [] = [] := rfl

@[simp] theorem markAt_nil : Grammar.markAt m [] = none := rfl

@[simp] theorem markAt_cons_self : Grammar.markAt m (m :: r) = some r := if_pos rfl

theorem markAt_append_of_notMem (hne : x ≠ []) (h : m ∉ x) :
    Grammar.markAt m (x ++ r) = none := by
  cases x with
  | nil => exact absurd rfl hne
  | cons c x =>
    refine if_neg ?_
    rintro rfl
    exact h List.mem_cons_self

theorem Digits.markAt (h : Digits x n) (hm : m.isDigit = false) :
    Grammar.markAt m (x ++ r) = none :=
  markAt_append_of_notMem h.ne_nil (h.notMem hm)

theorem Letters.markAt (h : Letters x) (hm : m.isAlpha = false) :
    Grammar.markAt m (x ++ r) = none :=
  markAt_append_of_notMem h.ne_nil (h.notMem hm)

theorem Letters.numberAt (h : Letters x) : Grammar.numberAt (x ++ r) = none := by
  cases x with
  | nil => exact absurd rfl h.ne_nil
  | cons c x =>
    have hc := h.all c List.mem_cons_self
    have hgap := operand_isAlpha.isGap_eq_false hc
    simp [Grammar.numberAt, Grammar.skipGap, hgap, isDigit_of_isAlpha hc]

theorem Span.Spells.spanAt {s : Span} (h : s.Spells u x) (hr : ∀ c ∈ r.head?, c = '/' ∨ c = ',') :
    Grammar.spanAt u (x ++ r) = some (s, r) := by
  have hends : ∀ c ∈ r.head?, isMark c = true := by
    intro c hc
    rcases hr c hc with rfl | rfl <;> rfl
  have hgap : Grammar.skipGap r = r :=
    skipGap_of_head fun c hc => by rcases hr c hc with rfl | rfl <;> rfl
  have hdigit : ∀ c ∈ r.head?, c.isDigit = false :=
    fun c hc => operand_isDigit.mark c (hends c hc)
  have halpha : ∀ c ∈ r.head?, c.isAlpha = false :=
    fun c hc => operand_isAlpha.mark c (hends c hc)
  have hdash : Grammar.markAt '-' r = none := by
    cases r with
    | nil => rfl
    | cons c r => rcases hr c rfl with rfl | rfl <;> rfl
  cases h with
  | star => simp [Grammar.spanAt, Grammar.markAt]
  | any hu => simp [Grammar.spanAt, Grammar.markAt, hu]
  | point hx => simp [Grammar.spanAt, hx.markAt, hx.numberAt hdigit, hgap, hdash]
  | @range x y first last hx hy =>
    have hfirst : Grammar.numberAt (x ++ '-' :: (y ++ r)) = some (first, '-' :: (y ++ r)) :=
      hx.numberAt (by simp)
    simp [Grammar.spanAt, hx.markAt, hfirst, hy.numberAt hdigit, hgap]
  | @namedRange x y hx hy =>
    have hfirst : Grammar.nameAt (x ++ '-' :: (y ++ r)) = some (x, '-' :: (y ++ r)) :=
      hx.nameAt (by simp)
    simp [Grammar.spanAt, hx.markAt, hx.numberAt, hfirst, hy.nameAt halpha, hgap]

theorem Item.Spells.itemAt {i : Item} (h : i.Spells u x) (hr : ∀ c ∈ r.head?, c = ',') :
    Grammar.itemAt u (x ++ r) = some (i, r) := by
  have hgap : Grammar.skipGap r = r := skipGap_of_head fun c hc => by rw [hr c hc]; rfl
  have hnone {m : Char} (hm : m ≠ ',') : Grammar.markAt m r = none := by
    cases r with
    | nil => rfl
    | cons c r =>
      rw [hr c rfl]
      exact if_neg (Ne.symm hm)
  cases h with
  | span hs =>
    have hspan := hs.spanAt (r := r) fun c hc => .inr (hr c hc)
    simp [Grammar.itemAt, hspan, hnone]
  | @stepped s step x y hs hy =>
    have hspan : Grammar.spanAt u (x ++ '/' :: (y ++ r)) = some (s, '/' :: (y ++ r)) :=
      hs.spanAt (by simp)
    have hstep := hy.numberAt (r := r) fun c hc => by rw [hr c hc]; rfl
    simp [Grammar.itemAt, hspan, hstep, hgap]
  | name hx =>
    have hname := hx.nameAt (r := r) fun c hc => by rw [hr c hc]; rfl
    simp [Grammar.itemAt, Grammar.spanAt, hx.markAt, hx.numberAt, hname, hgap, hnone]

/-- A text spells one item at most. -/
theorem Item.Spells.unique {i j : Item} (hi : i.Spells u x) (hj : j.Spells u x) : i = j := by
  have hi := hi.itemAt (r := []) (by simp)
  have hj := hj.itemAt (r := []) (by simp)
  simpa using hi.symm.trans hj

theorem Span.Spells.unique {s t : Span} (hs : s.Spells u x) (ht : t.Spells u x) : s = t := by
  have h := Item.Spells.unique (.span hs) (.span ht)
  simpa using h

theorem itemsAt_joinWith {items : List Item} {parts : List (List Char)} {fuel : Nat}
    (h : List.Forall₂ (Item.Spells u) items parts) (hne : parts ≠ [])
    (hfuel : parts.length ≤ fuel) :
    Grammar.itemsAt u fuel (Text.joinWith ',' parts) = some (items, []) := by
  induction h generalizing fuel with
  | nil => exact absurd rfl hne
  | @cons i part items parts hi hrest ih =>
    rw [List.length_cons] at hfuel
    obtain ⟨fuel, rfl⟩ := Nat.exists_eq_succ_of_ne_zero (by omega : fuel ≠ 0)
    by_cases hnil : parts = []
    · subst hnil
      cases hrest
      have hitem := hi.itemAt (r := []) (by simp)
      rw [List.append_nil] at hitem
      simp [Grammar.itemsAt, Text.joinWith, hitem]
    · have hitem := hi.itemAt (r := ',' :: Text.joinWith ',' parts) (by simp)
      have hitems := ih hnil (by omega : parts.length ≤ fuel)
      rw [Text.joinWith_cons_cons ',' part parts hnil]
      simp [Grammar.itemsAt, hitem, hitems]

/-- A word that is by itself a field is read as that field. -/
theorem Field.Reads.fieldAt {f : Field} (h : f.Reads u w) : Grammar.fieldAt u w = some (f, []) := by
  obtain ⟨items, hitems, hf⟩ := h
  have hparts : ∀ part ∈ Text.splitAt ',' w,
      part ≠ [] ∧ ∀ c ∈ part, Grammar.isGap c = false := by
    intro part hpart
    obtain ⟨i, _, hi⟩ := exists_of_mem_right hitems hpart
    exact ⟨hi.separated.1, hi.isGap_eq_false⟩
  have hskip : Grammar.skipGap w = w := by
    apply skipGap_of_head
    intro c hc
    have hmem := List.mem_of_mem_head? hc
    rw [← Text.joinWith_splitAt ',' w] at hmem
    rcases Text.mem_joinWith hmem with rfl | ⟨part, hpart, hmem⟩
    · rfl
    · exact (hparts part hpart).2 c hmem
  have hlength := Text.length_le_joinWith ',' fun part hpart => (hparts part hpart).1
  rw [Text.joinWith_splitAt] at hlength
  have hread := itemsAt_joinWith hitems (Text.splitAt_ne_nil ',' w) hlength
  rw [Text.joinWith_splitAt] at hread
  simp [Grammar.fieldAt, hskip, hread, hf]

theorem Field.Reads.unique {f g : Field} (hf : f.Reads u w) (hg : g.Reads u w) : f = g := by
  obtain ⟨items, hitems, hf⟩ := hf
  obtain ⟨items', hitems', hg⟩ := hg
  obtain rfl : items = items' :=
    List.left_unique_forall₂' (fun _ _ _ hi hj => hi.unique hj) hitems hitems'
  cases f
  cases g
  simpa using hf.symm.trans hg

end FeatureFlags.Cron
