import FeatureFlags.Cron.Weekday
import FeatureFlags.Proofs.Cron.Boundary

namespace FeatureFlags.Cron

open Weekday

/-- What becomes of a span of numbers, alone or before a step. -/
inductive Renumbered : Bool → Span → List Span → Prop
  | day {stepped : Bool} {n : Nat} : n ≤ 7 → Renumbered stepped (.point n) [.point (n % 7 + 1)]
  | range {stepped : Bool} {a b : Nat} : a ≤ b → b < 7 →
      Renumbered stepped (.range a b) [.range (a + 1) (b + 1)]
  | week {stepped : Bool} : Renumbered stepped (.range 0 7) [.range 1 7]
  | sunday : Renumbered false (.range 7 7) [.point 1]
  | wrapped {a : Nat} : 0 < a → a < 7 →
      Renumbered false (.range a 7) [.range (a + 1) 7, .point 1]

structure Unnumbered (x : List Char) : Prop where
  day : ∀ n, ¬ Digits x n
  range : ∀ y z a b, x = y ++ '-' :: z → Digits y a → ¬ Digits z b

variable {x y z part word out text item : List Char} {outs : List (List Char)} {n a b : Nat}
  {stepped : Bool}

theorem digits_renumber (h : n ≤ 7) : Digits (digits (renumber n)) (renumber n) := by
  have hall : ∀ n < 8, digits (renumber n) ≠ [] ∧ (digits (renumber n)).all Char.isDigit = true ∧
      Text.decimalValue (digits (renumber n)) = renumber n := by decide
  obtain ⟨hne, hdigits, hvalue⟩ := hall n (by omega)
  refine ⟨hne, List.all_eq_true.1 hdigits, hvalue, ?_⟩
  rw [renumber, UInt32.size]
  omega

theorem number?_eq_some (h : number? x = .ok (some n)) : Digits x n ∧ n ≤ 7 := by
  rw [number?] at h
  split at h
  · cases h
  · next hdigits =>
    split at h
    · next hle =>
      cases h
      simp only [Bool.or_eq_true, Bool.not_eq_true', not_or, Bool.not_eq_false,
        List.isEmpty_iff, List.all_eq_true] at hdigits
      exact ⟨⟨hdigits.1, hdigits.2, rfl, by rw [UInt32.size]; omega⟩, hle⟩
    · cases h

theorem Numeral.number?_eq (h : Numeral x n) :
    number? x = if n ≤ 7 then .ok (some n) else .error (.weekday (String.ofList x)) := by
  have hdigits : (x.isEmpty || !x.all Char.isDigit) = false := by
    simp only [Bool.or_eq_false_iff, List.isEmpty_eq_false_iff, Bool.not_eq_false',
      List.all_eq_true]
    exact ⟨h.ne_nil, h.all⟩
  rw [number?, hdigits, h.value]
  rfl

theorem number?_eq_none (h : number? x = .ok none) : ¬ Digits x n := by
  intro hx
  rw [hx.numeral.number?_eq] at h
  split at h <;> cases h

theorem renumberRange_cases (hx : Digits x a) (hy : Digits y b) (hle : b ≤ 7)
    (h : renumberRange a b stepped item = .ok outs) :
    ∃ s ss, s.Spells .weekday (x ++ '-' :: y) ∧ List.Forall₂ (Span.Spells .weekday) ss outs ∧
      Renumbered stepped s ss := by
  refine ⟨.range a b, ?_⟩
  have hspells : Span.Spells .weekday (.range a b) (x ++ '-' :: y) := .range hx hy
  rw [renumberRange] at h
  split at h
  · cases h
  next hab =>
  have hfirst := digits_renumber (n := a) (by omega)
  split at h
  · next hweek =>
    cases h
    have hlast := digits_renumber (n := min b 6) (by omega)
    refine ⟨_, hspells, .cons (.range hfirst hlast) .nil, ?_⟩
    by_cases hb : b < 7
    · have ha : renumber a = a + 1 := by rw [renumber]; omega
      have hb' : renumber (min b 6) = b + 1 := by rw [renumber]; omega
      rw [ha, hb']
      exact .range (by omega) hb
    · obtain rfl : a = 0 := by omega
      obtain rfl : b = 7 := by omega
      exact .week
  next hwrap =>
  obtain rfl : b = 7 := by omega
  split at h
  · cases h
  next hstep =>
  obtain rfl : stepped = false := by simpa using hstep
  have hsunday := digits_renumber (n := 7) (by omega)
  split at h
  · next ha =>
    cases h
    subst ha
    exact ⟨_, hspells, .cons (.point hsunday) .nil, .sunday⟩
  · next ha =>
    cases h
    have hseven : Digits ['7'] 7 := digits_singleton rfl
    refine ⟨_, hspells, .cons (.range hfirst hseven) (.cons (.point hsunday) .nil), ?_⟩
    have ha : renumber a = a + 1 := by rw [renumber]; omega
    rw [ha]
    exact .wrapped (by omega) (by omega)

theorem Unnumbered.of_notMem (hdash : '-' ∉ x) (hx : ∀ n, ¬ Digits x n) : Unnumbered x where
  day := hx
  range y z a b hsplit := by simp [hsplit] at hdash

theorem Unnumbered.of_cut (hcut : Text.cutAt? '-' x = some (y, z))
    (h : ∀ a b, Digits y a → ¬ Digits z b) : Unnumbered x where
  day n hx := by
    obtain ⟨rfl, _⟩ := Text.cutAt?_eq_some_iff.1 hcut
    exact hx.notMem (m := '-') rfl (by simp)
  range y' z' a b hsplit hy hz := by
    have hcut' := Text.cutAt?_eq_some_iff.2 ⟨hsplit, hy.notMem (m := '-') rfl⟩
    cases hcut.symm.trans hcut'
    exact h a b hy hz

theorem renumberSpan_cases (h : renumberSpan x stepped item = .ok outs) :
    (outs = [x] ∧ Unnumbered x) ∨ ∃ s ss, s.Spells .weekday x ∧
      List.Forall₂ (Span.Spells .weekday) ss outs ∧ Renumbered stepped s ss := by
  simp only [renumberSpan, bind, Except.bind, pure, Except.pure] at h
  split at h
  · next hwild =>
    cases h
    have hdash : '-' ∉ x := by rcases hwild with rfl | rfl <;> decide
    refine .inl ⟨rfl, .of_notMem hdash fun n hx => ?_⟩
    rcases hwild with rfl | rfl <;> cases hx.all _ List.mem_cons_self
  split at h
  · next y z hcut =>
    obtain ⟨rfl, _⟩ := Text.cutAt?_eq_some_iff.1 hcut
    cases hy : number? y with
    | error => simp [hy] at h
    | ok first =>
      cases hz : number? z with
      | error => simp [hy, hz] at h
      | ok last =>
        simp only [hy, hz] at h
        cases first with
        | none =>
          cases h
          exact .inl ⟨rfl, .of_cut hcut fun a b hya => absurd hya (number?_eq_none hy)⟩
        | some a =>
          cases last with
          | none =>
            cases h
            exact .inl ⟨rfl, .of_cut hcut fun a b _ => number?_eq_none hz⟩
          | some b =>
            obtain ⟨hb, hle⟩ := number?_eq_some hz
            exact .inr (renumberRange_cases (number?_eq_some hy).1 hb hle h)
  · next hcut =>
    have hdash := Text.cutAt?_eq_none_iff.1 hcut
    cases hx : number? x with
    | error => simp [hx] at h
    | ok day =>
      simp only [hx] at h
      cases day with
      | none =>
        cases h
        exact .inl ⟨rfl, .of_notMem hdash fun n => number?_eq_none hx⟩
      | some n =>
        cases h
        obtain ⟨hn, hle⟩ := number?_eq_some hx
        exact .inr ⟨_, _, .point hn, .cons (.point (digits_renumber hle)) .nil, .day hle⟩

theorem renumberItem_cases (h : renumberItem part = .ok outs) :
    ('/' ∉ part ∧ renumberSpan part false part = .ok outs) ∨
      ∃ x y out, part = x ++ '/' :: y ∧ '/' ∉ x ∧ renumberSpan x true part = .ok [out] ∧
        outs = [out ++ '/' :: y] := by
  rw [renumberItem] at h
  split at h
  · next hcut => exact .inl ⟨Text.cutAt?_eq_none_iff.1 hcut, h⟩
  · next x y hcut =>
    obtain ⟨hpart, hx⟩ := Text.cutAt?_eq_some_iff.1 hcut
    simp only [bind, Except.bind, pure, Except.pure] at h
    cases hspan : renumberSpan x true part with
    | error => simp [hspan] at h
    | ok texts =>
      simp only [hspan] at h
      split at h
      · next out =>
        cases h
        exact .inr ⟨x, y, out, hpart, hx, hspan, rfl⟩
      · cases h

theorem forall₂_of_mapM_ok {α β ε : Type} {f : α → Except ε β} {xs : List α} {ys : List β}
    (h : xs.mapM f = .ok ys) : List.Forall₂ (fun x y => f x = .ok y) xs ys := by
  induction xs generalizing ys with
  | nil =>
    cases h
    exact .nil
  | cons x xs ih =>
    simp only [List.mapM_cons, bind, Except.bind, pure, Except.pure] at h
    cases hx : f x with
    | error => simp [hx] at h
    | ok y =>
      cases hxs : xs.mapM f with
      | error => simp [hx, hxs] at h
      | ok rest =>
        simp only [hx, hxs] at h
        cases h
        exact .cons hx (ih hxs)

/-- A text without gaps and commas and with no two operands side by side. -/
structure Tidy (x : List Char) : Prop where
  chain : x.IsChain Fits
  solid : ∀ c ∈ x, Grammar.isGap c = false
  comma : ',' ∉ x

theorem Tidy.left (h : Tidy (x ++ y)) : Tidy x where
  chain := (List.isChain_append.1 h.chain).1
  solid c hc := h.solid c (List.mem_append_left y hc)
  comma hc := h.comma (List.mem_append_left y hc)

theorem Tidy.right (h : Tidy (x ++ y)) : Tidy y where
  chain := (List.isChain_append.1 h.chain).2.1
  solid c hc := h.solid c (List.mem_append_right x hc)
  comma hc := h.comma (List.mem_append_right x hc)

theorem Span.Spells.tidy {s : Span} {u : CalendarUnit} (h : s.Spells u x) : Tidy x where
  chain := h.separated.2.chain
  solid := h.isGap_eq_false
  comma := h.notMem (.inl rfl)

theorem Span.Spells.opens {s : Span} {u : CalendarUnit} (h : s.Spells u x) : Opens x := by
  obtain ⟨hne, hsep⟩ := h.separated
  exact hsep.opens hne h.tidy.solid

theorem renumberSpan_tidy (h : renumberSpan x stepped item = .ok outs) (hx : Tidy x) :
    outs ≠ [] ∧ ∀ out ∈ outs, Tidy out ∧ (Opens x → Opens out) := by
  rcases renumberSpan_cases h with ⟨rfl, _⟩ | ⟨s, ss, _, hss, hren⟩
  · simpa using hx
  · constructor
    · rintro rfl
      cases hss
      cases hren
    · intro out hout
      obtain ⟨t, _, ht⟩ := exists_of_mem_right hss hout
      exact ⟨ht.tidy, fun _ => ht.opens⟩

theorem Opens.of_append {m : Char} (h : Opens (x ++ m :: y)) (hm : isMark m = true) : Opens x := by
  obtain ⟨c, hc, hsolid⟩ := h
  cases x with
  | nil =>
    cases hc
    rw [hm] at hsolid
    cases hsolid.2
  | cons d x => exact ⟨c, hc, hsolid⟩

theorem renumberItem_tidy (h : renumberItem part = .ok outs) (hpart : Tidy part) :
    outs ≠ [] ∧ ∀ out ∈ outs, Tidy out ∧ (Opens part → Opens out) := by
  rcases renumberItem_cases h with ⟨_, hspan⟩ | ⟨x, y, out, rfl, _, hspan, rfl⟩
  · exact renumberSpan_tidy hspan hpart
  · obtain ⟨_, htidy⟩ := renumberSpan_tidy hspan hpart.left
    obtain ⟨hout, hopens⟩ := htidy out List.mem_cons_self
    have hstep : Tidy ('/' :: y) := hpart.right
    refine ⟨by simp, List.forall_mem_singleton.2 ⟨⟨?_, ?_, ?_⟩, fun h => ?_⟩⟩
    · exact (isChain_append_mark rfl).2 ⟨hout.chain, hstep.chain.of_cons⟩
    · intro c hc
      rcases List.mem_append.1 hc with hc | hc
      · exact hout.solid c hc
      · exact hstep.solid c hc
    · intro hc
      rcases List.mem_append.1 hc with hc | hc
      · exact hout.comma hc
      · exact hstep.comma hc
    · exact (hopens (h.of_append rfl)).append

theorem isChain_joinWith {parts : List (List Char)} :
    (Text.joinWith ',' parts).IsChain Fits ↔ ∀ part ∈ parts, part.IsChain Fits := by
  induction parts with
  | nil => simp [Text.joinWith]
  | cons part parts ih =>
    by_cases hnil : parts = []
    · simp [hnil, Text.joinWith]
    · rw [Text.joinWith_cons_cons ',' part parts hnil, isChain_append_mark rfl, ih,
        List.forall_mem_cons]

theorem opens_joinWith {parts : List (List Char)} :
    Opens (Text.joinWith ',' (part :: parts)) ↔ Opens part := by
  by_cases hnil : parts = []
  · rw [hnil, Text.joinWith]
  · rw [Text.joinWith_cons_cons ',' part parts hnil]
    exact ⟨fun h => h.of_append rfl, fun h => h.append⟩

theorem tidy_of_mem_splitAt (hsolid : ∀ c ∈ word, Grammar.isGap c = false)
    (hchain : word.IsChain Fits) (hpart : part ∈ Text.splitAt ',' word) : Tidy part where
  chain := by
    rw [← Text.joinWith_splitAt ',' word] at hchain
    exact isChain_joinWith.1 hchain part hpart
  solid c hc := by
    refine hsolid c ?_
    rw [← Text.joinWith_splitAt ',' word]
    exact Text.mem_joinWith_of_mem hpart hc
  comma := Text.notMem_of_mem_splitAt hpart

abbrev RenumberedItems (parts : List (List Char)) (outss : List (List (List Char))) : Prop :=
  List.Forall₂ (fun part outs => renumberItem part = .ok outs) parts outss

variable {parts : List (List Char)} {outss : List (List (List Char))}

theorem tidy_of_mem_flatten (h : RenumberedItems parts outss) (hparts : ∀ part ∈ parts, Tidy part)
    (hout : out ∈ outss.flatten) : Tidy out := by
  obtain ⟨outs, houts, hout⟩ := List.mem_flatten.1 hout
  obtain ⟨part, hpart, hitem⟩ := exists_of_mem_right h houts
  exact ((renumberItem_tidy hitem (hparts part hpart)).2 out hout).1

theorem opens_joinWith_flatten (h : RenumberedItems parts outss)
    (hparts : ∀ part ∈ parts, Tidy part) (hopens : Opens (Text.joinWith ',' parts)) :
    outss.flatten ≠ [] ∧ Opens (Text.joinWith ',' outss.flatten) := by
  cases h with
  | nil => exact absurd rfl hopens.ne_nil
  | @cons part outs _ _ hitem _ =>
    obtain ⟨hne, htidy⟩ := renumberItem_tidy hitem (hparts part List.mem_cons_self)
    cases outs with
    | nil => exact absurd rfl hne
    | cons out outs =>
      have hout := (htidy out List.mem_cons_self).2 (opens_joinWith.1 hopens)
      exact ⟨by simp, opens_joinWith.2 hout⟩

/-- The items of a renumbered field, which is again one word that starts with no mark. -/
theorem renumberField_cases (h : renumberField word = .ok text) (hword : Solid word)
    (hchain : word.IsChain Fits) :
    ∃ outss, RenumberedItems (Text.splitAt ',' word) outss ∧
      Text.splitAt ',' text = outss.flatten ∧ Solid text ∧ text.IsChain Fits := by
  simp only [renumberField, bind, Except.bind, pure, Except.pure] at h
  cases hmap : (Text.splitAt ',' word).mapM renumberItem with
  | error => simp [hmap] at h
  | ok outss =>
    rw [hmap] at h
    cases h
    have hitems : RenumberedItems _ outss := forall₂_of_mapM_ok hmap
    have hparts : ∀ part ∈ Text.splitAt ',' word, Tidy part :=
      fun part hpart => tidy_of_mem_splitAt hword.solid hchain hpart
    have houts : ∀ out ∈ outss.flatten, Tidy out :=
      fun out hout => tidy_of_mem_flatten hitems hparts hout
    have hopens := hword.opens
    rw [← Text.joinWith_splitAt ',' word] at hopens
    obtain ⟨hne, hopens⟩ := opens_joinWith_flatten hitems hparts hopens
    refine ⟨outss, hitems, Text.splitAt_joinWith hne fun out hout => (houts out hout).comma,
      ⟨hopens, fun c hc => ?_⟩, isChain_joinWith.2 fun out hout => (houts out hout).chain⟩
    rcases Text.mem_joinWith hc with rfl | ⟨out, hout, hc⟩
    · rfl
    · exact (houts out hout).solid c hc

end FeatureFlags.Cron
