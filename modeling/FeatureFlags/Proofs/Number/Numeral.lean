import FeatureFlags.Json.Basic
import FeatureFlags.Number.Reading
import FeatureFlags.Proofs.Number.Rounding
import FeatureFlags.Proofs.Text.Digits
import Mathlib.Data.List.Basic

namespace FeatureFlags

open Text

variable {whole fraction tail digits s : List Char} {c : Char} {negative : Bool} {exponent : Int}
  {x : Binary64}

namespace Binary64

def sign (negative : Bool) : List Char := if negative then ['-'] else []

def mantissa (whole fraction : List Char) : List Char :=
  whole ++ if fraction.isEmpty then [] else '.' :: fraction

theorem signAt_of_head (h : ∀ c ∈ s.head?, c ≠ '-' ∧ c ≠ '+') : signAt s = (false, s) := by
  cases s with
  | nil => rfl
  | cons c s =>
    obtain ⟨hminus, hplus⟩ := h c rfl
    simp [signAt, hminus, hplus]

theorem signAt_sign (h : ∀ c ∈ s.head?, c ≠ '-' ∧ c ≠ '+') :
    signAt (sign negative ++ s) = (negative, s) := by
  cases negative with
  | false => exact signAt_of_head h
  | true => rfl

theorem digitsAt_append (hdigits : AllDigits digits) (htail : ∀ c ∈ tail.head?, c.isDigit = false) :
    digitsAt (digits ++ tail) = (digits, tail) := by
  obtain ⟨htake, hdrop⟩ := takeWhile_append_of_head hdigits htail
  rw [digitsAt, htake, hdrop]

theorem head_of_allDigits (hdigits : AllDigits digits) (hne : digits ≠ []) :
    ∀ c ∈ (digits ++ tail).head?, c ≠ '-' ∧ c ≠ '+' := by
  intro c hc
  rw [List.head?_append_of_ne_nil _ hne] at hc
  exact ne_sign_of_isDigit (hdigits c (List.mem_of_mem_head? hc))

inductive Exponent : List Char → Int → Prop
  | none : Exponent [] 0
  | mark (exponent : Int) : Exponent
      ('e' :: (if exponent < 0 then '-' else '+') :: (toString exponent.natAbs).toList) exponent

theorem Exponent.head (h : Exponent tail exponent) : ∀ c ∈ tail.head?, c = 'e' := by
  cases h with
  | none => simp
  | mark => exact fun c hc => (Option.mem_some_iff.1 hc).symm

theorem Exponent.exponentOf? (h : Exponent tail exponent) : exponentOf? tail = some exponent := by
  cases h with
  | none => rfl
  | mark =>
    have hdigits : digitsAt ((toString exponent.natAbs).toList ++ []) =
        ((toString exponent.natAbs).toList, []) :=
      digitsAt_append (allDigits_toString exponent.natAbs) (by simp)
    rw [List.append_nil] at hdigits
    have hvalue := decimalValue_toString exponent.natAbs
    cases hds : (toString exponent.natAbs).toList with
    | nil => exact absurd hds (toString_ne_nil _)
    | cons d ds =>
      rw [hds] at hdigits hvalue
      by_cases hneg : exponent < 0
      · have habs : -(exponent.natAbs : Int) = exponent := by omega
        simp only [Binary64.exponentOf?, if_pos hneg, signAt, hdigits, hvalue, habs]
        rfl
      · have habs : (exponent.natAbs : Int) = exponent := by omega
        simp only [Binary64.exponentOf?, if_neg hneg, signAt, hdigits, hvalue, habs]
        rfl

theorem parse?_mantissa (hwhole : AllDigits whole) (hne : whole ≠ [])
    (hfraction : AllDigits fraction) (htail : Exponent tail exponent) :
    parse? (sign negative ++ (mantissa whole fraction ++ tail)) =
      ofDecimal? negative (decimalValue (whole ++ fraction)) (exponent - fraction.length) := by
  have hexponent := htail.exponentOf?
  have hnodigit : ∀ c ∈ tail.head?, c.isDigit = false := by
    intro c hc
    rw [htail.head c hc]
    rfl
  have hwhole' : whole.isEmpty = false := by simpa using hne
  cases fraction with
  | nil =>
    have hsign : signAt (sign negative ++ (mantissa whole [] ++ tail)) =
        (negative, whole ++ tail) := by
      rw [mantissa, List.isEmpty_nil, if_pos rfl, List.append_nil]
      exact signAt_sign (head_of_allDigits hwhole hne)
    simp only [parse?, hsign, digitsAt_append hwhole hnodigit]
    cases tail with
    | nil => simp [hwhole', hexponent]
    | cons c tail =>
      obtain rfl := htail.head c rfl
      simp [hwhole', hexponent]
  | cons d fraction =>
    have hsign : signAt (sign negative ++ (mantissa whole (d :: fraction) ++ tail)) =
        (negative, whole ++ '.' :: (d :: fraction ++ tail)) := by
      rw [mantissa, List.isEmpty_cons, if_neg Bool.false_ne_true, List.append_assoc]
      exact signAt_sign (head_of_allDigits hwhole hne)
    have hpoint : ∀ c ∈ ('.' :: (d :: fraction ++ tail)).head?, c.isDigit = false := by
      intro c hc
      obtain rfl := Option.mem_some_iff.1 hc
      rfl
    simp only [parse?, hsign, digitsAt_append hwhole hpoint, digitsAt_append hfraction hnodigit]
    simp [hwhole', hexponent]

/-- Digits, a point and an exponent that together give a double. -/
inductive Spells (x : Binary64) : List Char → Prop
  | mk {whole fraction tail : List Char} {exponent : Int} (hwhole : AllDigits whole)
      (hne : whole ≠ []) (hfraction : AllDigits fraction) (htail : Exponent tail exponent)
      (hx : ofDecimal? x.negative (decimalValue (whole ++ fraction))
        (exponent - fraction.length) = some x) : Spells x (mantissa whole fraction ++ tail)

theorem Spells.parse? (h : Spells x s) : parse? (sign x.negative ++ s) = some x := by
  cases h with
  | mk hwhole hne hfraction htail hx => rw [parse?_mantissa hwhole hne hfraction htail, hx]

theorem solid_sign (negative : Bool) : ∀ c ∈ sign negative, isBlank c = false := by
  intro c hc
  cases negative with
  | false => cases hc
  | true =>
    rw [List.mem_singleton.1 hc]
    rfl

theorem solid_mantissa (hwhole : AllDigits whole) (hfraction : AllDigits fraction) :
    ∀ c ∈ mantissa whole fraction, isBlank c = false := by
  intro c hc
  rcases List.mem_append.1 hc with hc | hc
  · exact hwhole.solid c hc
  · cases fraction with
    | nil => cases hc
    | cons d fraction =>
      rcases List.mem_cons.1 hc with rfl | hc
      · rfl
      · exact hfraction.solid c hc

theorem Exponent.solid (h : Exponent tail exponent) : ∀ c ∈ tail, isBlank c = false := by
  cases h with
  | none => simp
  | mark =>
    intro c hc
    simp only [List.mem_cons] at hc
    rcases hc with rfl | rfl | hc
    · rfl
    · split <;> rfl
    · exact (allDigits_toString _).solid c hc

theorem Spells.solid (h : Spells x s) : ∀ c ∈ sign x.negative ++ s, isBlank c = false := by
  obtain ⟨hwhole, _, hfraction, htail, _⟩ := h
  intro c hc
  simp only [List.mem_append] at hc
  rcases hc with hc | hc | hc
  · exact solid_sign _ c hc
  · exact solid_mantissa hwhole hfraction c hc
  · exact htail.solid c hc

theorem eq_zero_of_isZero (h : x.isZero = true) : x = zero x.negative := by
  cases x
  simp_all [isZero, zero]

theorem spells_zero (h : x.isZero = true) : Spells x ['0', '.', '0'] := by
  have hx : ofDecimal? x.negative (decimalValue (['0'] ++ ['0'])) (0 - 1) = some x := by
    rw [ofDecimal?, if_pos (.inl rfl), ← eq_zero_of_isZero h]
  have hzero : AllDigits ['0'] := allDigits_replicate 1
  exact Spells.mk hzero (by simp) hzero .none hx

section Notation

variable (hdigits : AllDigits digits) (hne : digits ≠ [])
  (hx : ofDecimal? x.negative (decimalValue digits) exponent = some x)
include hdigits hne hx

theorem spells_fraction (hlead : exponent + digits.length - 1 < 0) :
    Spells x ('0' :: '.' :: List.replicate ((exponent + digits.length - 1).natAbs - 1) '0' ++
      digits) := by
  generalize hzeros : (exponent + digits.length - 1).natAbs - 1 = zeros
  have hfraction : (List.replicate zeros '0' ++ digits).isEmpty = false := by
    simpa using fun _ => hne
  have htext : '0' :: '.' :: List.replicate zeros '0' ++ digits =
      mantissa ['0'] (List.replicate zeros '0' ++ digits) ++ [] := by
    rw [mantissa, hfraction]
    simp
  have hvalue : decimalValue (['0'] ++ (List.replicate zeros '0' ++ digits)) =
      decimalValue digits := by
    rw [← List.append_assoc, decimalValue_append, ← List.replicate_one,
      List.replicate_append_replicate]
    simp
  have hexponent : (0 : Int) - (List.replicate zeros '0' ++ digits).length = exponent := by
    rw [List.length_append, List.length_replicate]
    omega
  rw [htext]
  exact .mk (allDigits_replicate 1) (by simp) ((allDigits_replicate zeros).append hdigits)
    .none (by rw [hvalue, hexponent, hx])

theorem spells_positional (hlead : 0 ≤ exponent + digits.length - 1) :
    let places := (exponent + digits.length - 1).natAbs + 1
    Spells x (digits.take places ++ List.replicate (places - (digits.take places).length) '0' ++
      '.' :: if (digits.drop places).isEmpty then ['0'] else digits.drop places) := by
  intro places
  by_cases hrest : digits.length ≤ places
  · have hdrop : (digits.drop places).isEmpty = true := by simpa using hrest
    obtain ⟨zeros, hzeros⟩ : ∃ zeros, places = digits.length + zeros :=
      ⟨places - digits.length, by omega⟩
    have hvalue : decimalValue (digits ++ List.replicate zeros '0' ++ ['0']) =
        decimalValue digits * 10 ^ (zeros + 1) := by
      rw [List.append_assoc, ← List.replicate_one, List.replicate_append_replicate,
        decimalValue_append]
      simp
    have hexponent : (0 : Int) - ['0'].length = exponent - (zeros + 1 : Nat) := by
      rw [List.length_singleton]
      omega
    have hx' := ofDecimal?_mul_pow x.negative (decimalValue digits) exponent (zeros + 1)
    have htake : digits.take places = digits := List.take_of_length_le hrest
    rw [hdrop, if_pos rfl, htake, hzeros, Nat.add_sub_cancel_left, ← List.append_nil (_ ++ _ :: _)]
    have hzero : AllDigits ['0'] := allDigits_replicate 1
    exact .mk (hdigits.append (allDigits_replicate zeros)) (by simp [hne]) hzero .none
      (by rw [hvalue, hexponent, hx', hx])
  · have hdrop : (digits.drop places).isEmpty = false := by simpa using hrest
    have hlength : (digits.take places).length = places := List.length_take_of_le (by omega)
    have hexponent : (0 : Int) - (digits.drop places).length = exponent := by
      rw [List.length_drop]
      omega
    have htext : digits.take places ++ List.replicate (places - (digits.take places).length) '0' ++
        '.' :: digits.drop places = mantissa (digits.take places) (digits.drop places) ++ [] := by
      rw [mantissa, hdrop, hlength]
      simp
    rw [hdrop, if_neg Bool.false_ne_true, htext]
    exact .mk (hdigits.take places) (by simp [places, hne]) (hdigits.drop places) .none
      (by rw [List.take_append_drop, hexponent, hx])

theorem spells_scientific :
    Spells x (digits.take 1 ++ (if digits.length = 1 then [] else '.' :: digits.drop 1) ++
      'e' :: (if exponent + digits.length - 1 < 0 then '-' else '+') ::
        (toString (exponent + digits.length - 1).natAbs).toList) := by
  have hlength : 0 < digits.length := List.length_pos_iff.2 hne
  have hempty : (digits.drop 1).isEmpty = decide (digits.length = 1) := by
    rw [Bool.eq_iff_iff, List.isEmpty_iff, List.drop_eq_nil_iff, decide_eq_true_eq]
    omega
  have hmantissa : digits.take 1 ++ (if digits.length = 1 then [] else '.' :: digits.drop 1) =
      mantissa (digits.take 1) (digits.drop 1) := by
    rw [mantissa, hempty]
    simp
  have hexponent : exponent + digits.length - 1 - (digits.drop 1).length = exponent := by
    rw [List.length_drop]
    omega
  rw [hmantissa]
  exact .mk (hdigits.take 1) (by simp [hne]) (hdigits.drop 1) (.mark _)
    (by rw [List.take_append_drop, hexponent, hx])

end Notation

end Binary64

namespace FloatLayout

open Binary64

theorem write_eq (layout : FloatLayout) (x : Binary64) :
    ∃ body, Spells x body ∧ (layout.write x).toList = sign x.negative ++ body := by
  have hsign : (if x.negative then "-" else "").toList = sign x.negative := by
    cases x.negative <;> rfl
  rw [write]
  split
  · next hzero =>
    exact ⟨_, spells_zero hzero, by rw [String.toList_append, hsign]; rfl⟩
  · have hx : ofDecimal? x.negative (decimalValue (toString x.shortest.digits).toList)
        x.shortest.exponent = some x := by
      rw [decimalValue_toString]
      exact ofDecimal?_shortest x
    have hdigits := allDigits_toString x.shortest.digits
    have hne := toString_ne_nil x.shortest.digits
    simp only [String.toList_append, hsign, String.toList_ofList]
    refine ⟨_, ?_, rfl⟩
    split
    · split
      · next hlead => exact spells_fraction hdigits hne hx hlead
      · next hlead => exact spells_positional hdigits hne hx (not_lt.1 hlead)
    · exact spells_scientific hdigits hne hx

theorem parse?_write (layout : FloatLayout) (x : Binary64) :
    parse? (layout.write x).toList = some x := by
  obtain ⟨body, hbody, htext⟩ := layout.write_eq x
  rw [htext, hbody.parse?]

theorem write_solid (layout : FloatLayout) (x : Binary64) :
    ∀ c ∈ (layout.write x).toList, isBlank c = false := by
  obtain ⟨body, hbody, htext⟩ := layout.write_eq x
  rw [htext]
  exact hbody.solid

end FloatLayout

namespace Number

open Binary64

theorem toList_toString (n : Int) :
    (toString n).toList = sign (n < 0) ++ (toString n.natAbs).toList := by
  rw [Int.toString_eq_repr, Int.repr_eq_if]
  split
  · next hpos =>
    have habs : n.toNat = n.natAbs := by omega
    rw [decide_eq_false (not_lt.2 hpos), habs, Nat.toString_eq_repr]
    rfl
  · next hneg =>
    have habs : (-n).toNat = n.natAbs := by omega
    rw [decide_eq_true (not_le.1 hneg), habs, Nat.toString_eq_repr, String.toList_append]
    rfl

theorem parse?_write (n : Number) : parse? n.write.toList = n.toBinary64? := by
  cases n with
  | integer n =>
    have htext : mantissa (toString n.natAbs).toList [] ++ [] = (toString n.natAbs).toList := by
      simp [mantissa]
    have hnil : AllDigits [] := allDigits_replicate 0
    rw [write, toList_toString, ← htext, parse?_mantissa (allDigits_toString n.natAbs)
      (toString_ne_nil n.natAbs) hnil .none, List.append_nil, decimalValue_toString]
    exact ofDecimal?_int n
  | real x => exact FloatLayout.json.parse?_write x

theorem write_solid (n : Number) : ∀ c ∈ n.write.toList, isBlank c = false := by
  cases n with
  | integer n =>
    intro c hc
    rw [write, toList_toString, List.mem_append] at hc
    rcases hc with hc | hc
    · exact solid_sign _ c hc
    · exact (allDigits_toString _).solid c hc
  | real x => exact FloatLayout.json.write_solid x

end Number

end FeatureFlags
