import FeatureFlags.Proofs.Text.Parts
import Mathlib.Data.List.DropRight
import Mathlib.Data.List.Forall2

namespace FeatureFlags.Text

variable {sep c : Char} {s padded : List Char} {texts parts : List (List Char)}

structure Tight (s : List Char) : Prop where
  head : ∀ c ∈ s.head?, isBlank c = false
  last : ∀ c ∈ s.getLast?, isBlank c = false

theorem tight_iff :
    Tight s ↔ s.head?.all (!isBlank ·) = true ∧ s.getLast?.all (!isBlank ·) = true := by
  simp only [Option.all_eq_true, Bool.not_eq_true']
  exact ⟨fun h => ⟨h.head, h.last⟩, fun h => ⟨h.1, h.2⟩⟩

instance (s : List Char) : Decidable (Tight s) := decidable_of_iff' _ tight_iff

/-- A text with blanks put around it. -/
def Padded (s padded : List Char) : Prop :=
  ∃ before after, before.all isBlank = true ∧ after.all isBlank = true ∧
    padded = before ++ s ++ after

theorem Padded.refl (s : List Char) : Padded s s :=
  ⟨[], [], rfl, rfl, by rw [List.nil_append, List.append_nil]⟩

theorem Padded.mem (h : Padded s padded) (hc : c ∈ s) : c ∈ padded := by
  obtain ⟨before, after, _, _, rfl⟩ := h
  exact List.mem_append_left _ (List.mem_append_right _ hc)

theorem Padded.mem_or_isBlank (h : Padded s padded) (hc : c ∈ padded) :
    c ∈ s ∨ isBlank c = true := by
  obtain ⟨before, after, hbefore, hafter, rfl⟩ := h
  rw [List.all_eq_true] at hbefore hafter
  rcases List.mem_append.1 hc with hc | hc
  · rcases List.mem_append.1 hc with hc | hc
    · exact .inr (hbefore c hc)
    · exact .inl hc
  · exact .inr (hafter c hc)

theorem trimChars_eq_rdropWhile (s : List Char) :
    trimChars s = (s.dropWhile isBlank).rdropWhile isBlank := rfl

theorem tight_trimChars (s : List Char) : Tight (trimChars s) where
  head := by
    intro c hc
    -- What is left is the front of the text without the blanks before it.
    obtain ⟨rest, hrest⟩ := List.rdropWhile_prefix isBlank (l := s.dropWhile isBlank)
    rw [← trimChars_eq_rdropWhile] at hrest
    have hhead := List.head?_dropWhile_not isBlank s
    rw [← hrest, List.head?_append, Option.mem_def.1 hc] at hhead
    exact hhead
  last := by
    intro c hc
    rw [trimChars, List.getLast?_reverse] at hc
    have hhead := List.head?_dropWhile_not isBlank (s.dropWhile isBlank).reverse
    rw [Option.mem_def.1 hc] at hhead
    exact hhead

theorem trimChars_of_blank (h : ∀ c ∈ s, isBlank c = true) : trimChars s = [] := by
  rw [trimChars_eq_rdropWhile, List.dropWhile_eq_nil_iff.2 h, List.rdropWhile_nil]

theorem Tight.trimChars_padded (h : Tight s) (hp : Padded s padded) : trimChars padded = s := by
  obtain ⟨before, after, hbefore, hafter, rfl⟩ := hp
  rw [List.all_eq_true] at hbefore hafter
  by_cases hs : s = []
  · subst hs
    apply trimChars_of_blank
    intro c hc
    rw [List.append_nil] at hc
    exact (List.mem_append.1 hc).elim (hbefore c) (hafter c)
  · have hfront : (before ++ (s ++ after)).dropWhile isBlank = s ++ after := by
      refine (takeWhile_append_of_head hbefore ?_).2
      rw [List.head?_append_of_ne_nil _ hs]
      exact h.head
    have hback : (after.reverse ++ s.reverse).dropWhile isBlank = s.reverse := by
      refine (takeWhile_append_of_head (fun c hc => hafter c (List.mem_reverse.1 hc)) ?_).2
      rw [List.head?_reverse]
      exact h.last
    rw [trimChars, List.append_assoc, hfront, List.reverse_append, hback, List.reverse_reverse]

theorem trimChars_trimChars (s : List Char) : trimChars (trimChars s) = trimChars s :=
  (tight_trimChars s).trimChars_padded (.refl _)

theorem trim_trim (s : String) : trim (trim s) = trim s := by
  rw [trim, trim, String.toList_ofList, trimChars_trimChars]

theorem trimChars_eq_nil_iff : trimChars s = [] ↔ ∀ c ∈ s, isBlank c = true := by
  constructor
  · intro h
    rw [trimChars_eq_rdropWhile, List.rdropWhile_eq_nil_iff] at h
    rw [← List.dropWhile_eq_nil_iff]
    cases hs : s.dropWhile isBlank with
    | nil => rfl
    | cons c rest =>
      have hhead := List.head?_dropWhile_not isBlank s
      rw [hs, List.head?_cons] at hhead
      rw [hs] at h
      cases hhead.symm.trans (h c List.mem_cons_self)
  · exact trimChars_of_blank

theorem isEmpty_trim (s : String) : (trim s).isEmpty = isBlankText s := by
  rw [Bool.eq_iff_iff, isBlankText, List.all_eq_true, ← trimChars_eq_nil_iff, trim,
    String.isEmpty_iff, String.ofList_eq_empty_iff]

theorem length_le_flatMap_splitAt (sep : Char) (parts : List (List Char)) :
    parts.length ≤ (parts.flatMap (splitAt sep)).length := by
  induction parts with
  | nil => exact Nat.le_refl 0
  | cons part parts ih =>
    have hpart := List.length_pos_iff.2 (splitAt_ne_nil sep part)
    rw [List.flatMap_cons, List.length_append, List.length_cons]
    omega

/-- A text that is found again between separators, whatever blanks are put around it. -/
structure Separable (sep : Char) (s : List Char) : Prop extends Tight s where
  notMem : sep ∉ s

theorem separable_iff : Separable sep s ↔ Tight s ∧ sep ∉ s :=
  ⟨fun h => ⟨h.toTight, h.notMem⟩, fun h => ⟨h.1, h.2⟩⟩

instance (sep : Char) (s : List Char) : Decidable (Separable sep s) :=
  decidable_of_iff' _ separable_iff

theorem Padded.map_splitAt_iff (hp : Padded s padded) (hsep : isBlank sep = false) :
    (splitAt sep padded).map trimChars = [s] ↔ Separable sep s := by
  constructor
  · intro h
    obtain ⟨part, hpart, rfl⟩ := List.map_eq_singleton_iff.1 h
    -- A text with one part is this part.
    have hjoin := joinWith_splitAt sep padded
    rw [hpart] at hjoin
    have hnot : sep ∉ part := notMem_of_mem_splitAt (hpart ▸ List.mem_singleton_self part)
    have hwhole : part = padded := hjoin
    subst hwhole
    exact ⟨tight_trimChars part, fun hmem => hnot (hp.mem hmem)⟩
  · intro h
    have hnot : sep ∉ padded := by
      intro hmem
      rcases hp.mem_or_isBlank hmem with hmem | hblank
      · exact h.notMem hmem
      · cases hsep.symm.trans hblank
    rw [splitAt_of_notMem hnot, List.map_singleton, h.toTight.trimChars_padded hp]

theorem map_flatMap_splitAt_iff (hsep : isBlank sep = false)
    (h : List.Forall₂ Padded texts parts) :
    (parts.flatMap (splitAt sep)).map trimChars = texts ↔
      ∀ text ∈ texts, Separable sep text := by
  induction h with
  | nil => simp
  | @cons text part texts parts hpadded hrest ih =>
    rw [List.forall_mem_cons, ← hpadded.map_splitAt_iff hsep, ← ih, List.flatMap_cons,
      List.map_append, ← List.singleton_append]
    constructor
    · intro heq
      -- Each part gives at least one text, so that none of them can give more.
      have hfirst := List.length_pos_iff.2 (splitAt_ne_nil sep part)
      have hothers := length_le_flatMap_splitAt sep parts
      have hlength := congrArg List.length heq
      simp only [List.length_append, List.length_map, List.length_singleton] at hlength
      rw [hrest.length_eq] at hlength
      refine List.append_inj heq ?_
      rw [List.length_map, List.length_singleton]
      omega
    · rintro ⟨hfirst, hothers⟩
      rw [hfirst, hothers]

/-- Texts that were joined with blanks around them are read as they were if and only if each of them
can stand between separators. -/
theorem map_splitAt_joinWith_iff (hsep : isBlank sep = false) (hne : texts ≠ [])
    (h : List.Forall₂ Padded texts parts) :
    (splitAt sep (joinWith sep parts)).map trimChars = texts ↔
      ∀ text ∈ texts, Separable sep text := by
  have hparts : parts ≠ [] := by
    rw [← List.length_pos_iff, ← h.length_eq]
    exact List.length_pos_iff.2 hne
  rw [splitAt_joinWith_eq_flatMap hparts, map_flatMap_splitAt_iff hsep h]

theorem joinWith_eq_intercalate (sep : Char) (parts : List (List Char)) :
    joinWith sep parts = [sep].intercalate parts := by
  induction parts with
  | nil => rfl
  | cons part parts ih =>
    cases parts with
    | nil => simp [joinWith]
    | cons next parts =>
      rw [joinWith_cons_cons sep part _ (List.cons_ne_nil next parts), ih,
        List.intercalate_cons_cons, List.append_assoc, List.singleton_append]

end FeatureFlags.Text
