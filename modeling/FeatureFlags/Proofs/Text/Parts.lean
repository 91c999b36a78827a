import FeatureFlags.Text.Blank
import Mathlib.Data.List.Basic

namespace FeatureFlags.Text

variable {sep c : Char} {s x y r part word : List Char} {parts : List (List Char)}

/-- A character of another kind ends what a reader takes. -/
theorem takeWhile_append_of_head {p : Char → Bool} (hx : ∀ c ∈ x, p c = true)
    (hr : ∀ c ∈ r.head?, p c = false) :
    (x ++ r).takeWhile p = x ∧ (x ++ r).dropWhile p = r := by
  rw [List.takeWhile_append_of_pos hx, List.dropWhile_append_of_pos hx]
  cases r with
  | nil => simp
  | cons c r => simp [hr c rfl]

theorem trimChars_of_solid (h : ∀ c ∈ s, isBlank c = false) : trimChars s = s := by
  have hdrop {t : List Char} (ht : ∀ c ∈ t, isBlank c = false) : t.dropWhile isBlank = t := by
    cases t with
    | nil => rfl
    | cons c t => exact List.dropWhile_cons_of_neg (by simp [ht c List.mem_cons_self])
  rw [trimChars, hdrop h, hdrop fun c hc => h c (List.mem_reverse.1 hc), List.reverse_reverse]

theorem trimChars_cons (h : isBlank c = false) : ∃ t, trimChars (c :: s) = c :: t := by
  have hc : [c].dropWhile isBlank = [c] := List.dropWhile_cons_of_neg (by simp [h])
  rw [trimChars, List.dropWhile_cons_of_neg (by simp [h]), List.reverse_cons, List.dropWhile_append]
  split
  · exact ⟨[], by rw [hc]; rfl⟩
  · exact ⟨(s.reverse.dropWhile isBlank).reverse, by simp⟩

theorem splitAt_ne_nil (sep : Char) (s : List Char) : splitAt sep s ≠ [] := by
  induction s with
  | nil => simp [splitAt]
  | cons c rest ih =>
    rw [splitAt]
    split
    · simp
    · split <;> simp

theorem splitAt_cons_self (sep : Char) (s : List Char) :
    splitAt sep (sep :: s) = [] :: splitAt sep s := by
  rw [splitAt]
  split
  · next hnil => exact absurd hnil (splitAt_ne_nil sep s)
  · next hparts => rw [if_pos rfl, hparts]

theorem splitAt_cons_of_ne (h : c ≠ sep) (hs : splitAt sep s = part :: parts) :
    splitAt sep (c :: s) = (c :: part) :: parts := by
  rw [splitAt, hs]
  exact if_neg h

theorem splitAt_of_notMem (h : sep ∉ x) : splitAt sep x = [x] := by
  induction x with
  | nil => rfl
  | cons c x ih =>
    rw [List.mem_cons, not_or] at h
    exact splitAt_cons_of_ne (Ne.symm h.1) (ih h.2)

theorem splitAt_append_cons (sep : Char) (x y : List Char) :
    splitAt sep (x ++ sep :: y) = splitAt sep x ++ splitAt sep y := by
  induction x with
  | nil => exact splitAt_cons_self sep y
  | cons c x ih =>
    cases hx : splitAt sep x with
    | nil => exact absurd hx (splitAt_ne_nil sep x)
    | cons part parts =>
      rw [hx, List.cons_append] at ih
      by_cases hc : c = sep
      · rw [hc, List.cons_append, splitAt_cons_self, splitAt_cons_self, hx, ih]
        rfl
      · rw [List.cons_append, splitAt_cons_of_ne hc ih, splitAt_cons_of_ne hc hx]
        rfl

theorem splitAt_append (h : sep ∉ x) : splitAt sep (x ++ sep :: y) = x :: splitAt sep y := by
  rw [splitAt_append_cons, splitAt_of_notMem h, List.singleton_append]

theorem joinWith_cons_cons (sep : Char) (x : List Char) (parts : List (List Char))
    (h : parts ≠ []) : joinWith sep (x :: parts) = x ++ sep :: joinWith sep parts := by
  cases parts with
  | nil => exact absurd rfl h
  | cons => rfl

theorem joinWith_splitAt (sep : Char) (s : List Char) : joinWith sep (splitAt sep s) = s := by
  induction s with
  | nil => rfl
  | cons c s ih =>
    cases hs : splitAt sep s with
    | nil => exact absurd hs (splitAt_ne_nil sep s)
    | cons part parts =>
      rw [hs] at ih
      by_cases hc : c = sep
      · rw [hc, splitAt_cons_self, hs, joinWith_cons_cons sep [] _ (by simp), ih, List.nil_append]
      · rw [splitAt_cons_of_ne hc hs, ← ih]
        cases parts <;> rfl

theorem splitAt_joinWith_eq_flatMap (hne : parts ≠ []) :
    splitAt sep (joinWith sep parts) = parts.flatMap (splitAt sep) := by
  induction parts with
  | nil => exact absurd rfl hne
  | cons part parts ih =>
    by_cases hparts : parts = []
    · rw [hparts, List.flatMap_singleton]
      rfl
    · rw [joinWith_cons_cons sep part parts hparts, splitAt_append_cons, ih hparts,
        List.flatMap_cons]

theorem splitAt_joinWith (hne : parts ≠ []) (h : ∀ part ∈ parts, sep ∉ part) :
    splitAt sep (joinWith sep parts) = parts := by
  have hparts : parts.flatMap (splitAt sep) = parts.flatMap fun part => [part] :=
    List.flatMap_congr fun part hpart => splitAt_of_notMem (h part hpart)
  rw [splitAt_joinWith_eq_flatMap hne, hparts, List.flatMap_singleton']

theorem mem_joinWith (h : c ∈ joinWith sep parts) : c = sep ∨ ∃ part ∈ parts, c ∈ part := by
  induction parts with
  | nil => cases h
  | cons part parts ih =>
    by_cases hnil : parts = []
    · subst hnil
      exact .inr ⟨part, by simp, h⟩
    · rw [joinWith_cons_cons sep part parts hnil, List.mem_append, List.mem_cons] at h
      rcases h with h | rfl | h
      · exact .inr ⟨part, by simp, h⟩
      · exact .inl rfl
      · rcases ih h with rfl | ⟨p, hp, hc⟩
        · exact .inl rfl
        · exact .inr ⟨p, List.mem_cons_of_mem _ hp, hc⟩

theorem mem_joinWith_of_mem (hpart : part ∈ parts) (hc : c ∈ part) : c ∈ joinWith sep parts := by
  induction parts with
  | nil => cases hpart
  | cons first parts ih =>
    by_cases hnil : parts = []
    · subst hnil
      obtain rfl := List.mem_singleton.1 hpart
      exact hc
    · rw [joinWith_cons_cons sep first parts hnil, List.mem_append, List.mem_cons]
      rcases List.mem_cons.1 hpart with rfl | hpart
      · exact .inl hc
      · exact .inr (.inr (ih hpart))

theorem length_le_joinWith (sep : Char) (h : ∀ part ∈ parts, part ≠ []) :
    parts.length ≤ (joinWith sep parts).length := by
  induction parts with
  | nil => exact Nat.le_refl 0
  | cons part parts ih =>
    have hpart := List.length_pos_iff.2 (h part List.mem_cons_self)
    by_cases hnil : parts = []
    · subst hnil
      exact hpart
    · have hrest := ih fun p hp => h p (List.mem_cons_of_mem _ hp)
      rw [joinWith_cons_cons sep part parts hnil, List.length_append, List.length_cons,
        List.length_cons]
      omega

theorem notMem_of_mem_splitAt (h : part ∈ splitAt sep s) : sep ∉ part := by
  induction s generalizing part with
  | nil => simp_all [splitAt]
  | cons c s ih =>
    cases hs : splitAt sep s with
    | nil => exact absurd hs (splitAt_ne_nil sep s)
    | cons first parts =>
      rw [hs] at ih
      by_cases hc : c = sep
      · rw [hc, splitAt_cons_self, hs, List.mem_cons] at h
        rcases h with rfl | h
        · simp
        · exact ih h
      · rw [splitAt_cons_of_ne hc hs, List.mem_cons] at h
        rcases h with rfl | h
        · rw [List.mem_cons, not_or]
          exact ⟨Ne.symm hc, ih List.mem_cons_self⟩
        · exact ih (List.mem_cons_of_mem _ h)

theorem cutAt?_eq_some_iff : cutAt? sep s = some (x, y) ↔ s = x ++ sep :: y ∧ sep ∉ x := by
  induction s generalizing x with
  | nil => simp [cutAt?]
  | cons c s ih =>
    rw [cutAt?]
    split
    · next hc =>
      subst hc
      cases x with
      | nil => simp [eq_comm]
      | cons d x =>
        simp only [Option.some.injEq, Prod.mk.injEq, List.cons_append, List.cons.injEq,
          List.mem_cons, not_or]
        constructor
        · rintro ⟨h, _⟩
          cases h
        · rintro ⟨⟨rfl, _⟩, h, _⟩
          exact absurd rfl h
    · next hc =>
      cases x with
      | nil =>
        simp only [Option.map_eq_some_iff, Prod.exists, Prod.mk.injEq, List.nil_append,
          List.cons.injEq]
        constructor
        · rintro ⟨_, _, _, h, _⟩
          cases h
        · rintro ⟨⟨h, _⟩, _⟩
          exact absurd h hc
      | cons d x =>
        simp only [Option.map_eq_some_iff, Prod.exists, Prod.mk.injEq, List.cons_append,
          List.cons.injEq, List.mem_cons, not_or]
        constructor
        · rintro ⟨x', y', h, ⟨rfl, rfl⟩, rfl⟩
          obtain ⟨hs, hx⟩ := ih.1 h
          exact ⟨⟨rfl, hs⟩, Ne.symm hc, hx⟩
        · rintro ⟨⟨rfl, hs⟩, _, hx⟩
          exact ⟨x, y, ih.2 ⟨hs, hx⟩, ⟨rfl, rfl⟩, rfl⟩

theorem cutAt?_eq_none_iff : cutAt? sep s = none ↔ sep ∉ s := by
  induction s with
  | nil => simp [cutAt?]
  | cons c s ih =>
    rw [cutAt?, List.mem_cons, not_or]
    split
    · next hc => simp [hc]
    · next hc =>
      rw [Option.map_eq_none_iff, ih]
      exact ⟨fun h => ⟨Ne.symm hc, h⟩, And.right⟩

theorem mem_wordsFrom {run : List Char} (hrun : ∀ c ∈ run, isBlank c = false)
    (h : word ∈ wordsFrom run s) : word ≠ [] ∧ ∀ c ∈ word, isBlank c = false := by
  induction s generalizing run with
  | nil =>
    simp only [wordsFrom] at h
    split at h
    · cases h
    · next hne =>
      obtain rfl := List.mem_singleton.1 h
      simpa using ⟨by simpa using hne, hrun⟩
  | cons c s ih =>
    simp only [wordsFrom] at h
    split at h
    · split at h
      · exact ih (by simp) h
      · next hne =>
        rcases List.mem_cons.1 h with rfl | h
        · simpa using ⟨by simpa using hne, hrun⟩
        · exact ih (by simp) h
    · next hc =>
      refine ih ?_ h
      intro d hd
      rcases List.mem_cons.1 hd with rfl | hd
      · simpa using hc
      · exact hrun d hd

theorem mem_words (h : word ∈ words s) : word ≠ [] ∧ ∀ c ∈ word, isBlank c = false :=
  mem_wordsFrom (by simp) h

end FeatureFlags.Text
