import FeatureFlags.Proofs.Text.Digits
import FeatureFlags.Proofs.Time.Order
import FeatureFlags.Time.Timestamp

namespace FeatureFlags.Time.Timestamp

open Text

variable {ds rest s : List Char} {c : Char} {width n : Nat} {year : Int}

section Padded

theorem allDigits_padded (width n : Nat) : AllDigits (padded width n) :=
  (allDigits_replicate _).append (allDigits_toString n)

theorem padded_ne_nil (width n : Nat) : padded width n ≠ [] :=
  List.append_ne_nil_of_right_ne_nil _ (toString_ne_nil n)

@[simp] theorem decimalValue_padded (width n : Nat) : decimalValue (padded width n) = n := by
  simp only [padded, decimalValue_append, decimalValue_replicate, decimalValue_toString]
  omega

theorem length_padded (hwidth : 0 < width) (h : n < 10 ^ width) :
    (padded width n).length = width := by
  have hlength := (length_toString_le_iff hwidth).2 h
  simp only [padded, List.length_append, List.length_replicate]
  omega

end Padded

theorem daysInMonth_le (year : Int) (month : Nat) : daysInMonth year month ≤ 31 := by
  unfold daysInMonth
  split
  · split <;> decide
  · decide
  · decide
  · decide
  · decide
  · decide

theorem skipBlanks_of_head (h : ∀ c ∈ s.head?, isBlank c = false) : skipBlanks s = s :=
  (takeWhile_append_of_head (x := []) (by simp) h).2

theorem numberAt_append (hds : AllDigits ds) (hne : ds ≠ []) (hlength : ds.length ≤ width)
    (hrest : ds.length = width ∨ ∀ c ∈ rest.head?, c.isDigit = false) :
    numberAt width (ds ++ rest) = some (decimalValue ds, rest) := by
  have hskip : skipBlanks (ds ++ rest) = ds ++ rest := by
    apply skipBlanks_of_head
    intro c hc
    rw [List.head?_append_of_ne_nil _ hne] at hc
    exact hds.solid c (List.mem_of_mem_head? hc)
  have hhead : ∀ c ∈ (rest.take (width - ds.length)).head?, c.isDigit = false := by
    intro c hc
    rcases hrest with hfull | hrest
    · rw [hfull, Nat.sub_self, List.take_zero] at hc
      cases hc
    · apply hrest
      rw [List.head?_take] at hc
      split at hc
      · cases hc
      · exact hc
  have htaken : ((ds ++ rest).take width).takeWhile Char.isDigit = ds := by
    rw [List.take_append, List.take_of_length_le hlength]
    exact (takeWhile_append_of_head hds hhead).1
  have hempty : ds.isEmpty = false := by simpa using hne
  simp only [numberAt, hskip, htaken, hempty, List.drop_left]
  rfl

theorem numberAt_padded (hwidth : 0 < width) (h : n < 10 ^ width) (rest : List Char) :
    numberAt width (padded width n ++ rest) = some (n, rest) := by
  have hlength := length_padded hwidth h
  rw [numberAt_append (allDigits_padded width n) (padded_ne_nil width n) hlength.le
    (.inl hlength), decimalValue_padded]

theorem numberAt_two (h : n < 100) (rest : List Char) :
    numberAt 2 (padded 2 n ++ rest) = some (n, rest) := numberAt_padded (by decide) h rest

theorem markAt_self (hc : isBlank c = false) (rest : List Char) :
    markAt c (c :: rest) = some rest := by
  have hskip : skipBlanks (c :: rest) = c :: rest := skipBlanks_of_head (by simpa using hc)
  simp [markAt, hskip]

theorem head?_padded_append (width n : Nat) (rest : List Char) :
    ∃ d ds, padded width n ++ rest = d :: ds ∧ d.isDigit = true := by
  cases hds : padded width n with
  | nil => exact absurd hds (padded_ne_nil width n)
  | cons d ds => exact ⟨d, ds ++ rest, rfl, allDigits_padded width n d (hds ▸ List.mem_cons_self)⟩

/-- Behind a sign the year takes all digits up to the hyphen. -/
theorem numberAt_signed (n : Nat) (rest : List Char) :
    numberAt (padded 4 n ++ '-' :: rest).length (padded 4 n ++ '-' :: rest) =
      some (n, '-' :: rest) := by
  rw [numberAt_append (allDigits_padded 4 n) (padded_ne_nil 4 n) (by simp)
    (.inr (by simp)), decimalValue_padded]

theorem yearAt_digit (hd : c.isDigit = true) (s : List Char) :
    yearAt (c :: s) = (numberAt 4 (c :: s)).map fun p => ((p.1 : Int), p.2) := by
  have hskip : skipBlanks (c :: s) = c :: s :=
    skipBlanks_of_head (by simpa using isBlank_of_isDigit hd)
  obtain ⟨hminus, hplus⟩ := ne_sign_of_isDigit hd
  rw [yearAt, hskip]
  cases hn : numberAt 4 (c :: s) <;> simp [hminus, hplus, hn]

theorem yearAt_minus (h : s.head?.any Char.isDigit = true) :
    yearAt ('-' :: s) = (numberAt s.length s).map fun p => (-(p.1 : Int), p.2) := by
  have hskip : skipBlanks ('-' :: s) = '-' :: s := skipBlanks_of_head (by simp; rfl)
  rw [yearAt, hskip]
  cases hn : numberAt s.length s <;> simp [h, hn]

theorem yearAt_plus (h : s.head?.any Char.isDigit = true) :
    yearAt ('+' :: s) = (numberAt s.length s).map fun p => ((p.1 : Int), p.2) := by
  have hskip : skipBlanks ('+' :: s) = '+' :: s := skipBlanks_of_head (by simp; rfl)
  rw [yearAt, hskip]
  cases hn : numberAt s.length s <;> simp [h, hn]

theorem yearAt_writeYear (year : Int) (rest : List Char) :
    yearAt (writeYear year ++ '-' :: rest) = some (year, '-' :: rest) := by
  obtain ⟨d, ds, htext, hd⟩ := head?_padded_append 4 year.natAbs ('-' :: rest)
  have hdigit : (padded 4 year.natAbs ++ '-' :: rest).head?.any Char.isDigit = true := by
    rw [htext]
    exact hd
  rw [writeYear]
  split
  · next hplain =>
    have habs : (year.natAbs : Int) = year := Int.natAbs_of_nonneg hplain.1
    have hnumber : numberAt 4 (padded 4 year.natAbs ++ '-' :: rest) =
        some (year.natAbs, '-' :: rest) := numberAt_padded (by decide) (by omega) _
    rw [htext] at hnumber ⊢
    rw [yearAt_digit hd, hnumber, Option.map_some, habs]
  · rw [List.cons_append]
    split
    · next hneg =>
      have habs : -(year.natAbs : Int) = year := by omega
      rw [yearAt_minus hdigit, numberAt_signed, Option.map_some, habs]
    · next hpos =>
      have habs : (year.natAbs : Int) = year := Int.natAbs_of_nonneg (not_lt.1 hpos)
      rw [yearAt_plus hdigit, numberAt_signed, Option.map_some, habs]

theorem fractionAt_point (hwidth : 0 < width) (hle : width ≤ 9) (h : n < 10 ^ width) :
    fractionAt ('.' :: (padded width n ++ ['Z'])) = some (n * 10 ^ (9 - width), ['Z']) := by
  have hlength := length_padded hwidth h
  have hempty : (padded width n).isEmpty = false := by simpa using padded_ne_nil width n
  have hend {k : Nat} : ∀ c ∈ (['Z'].take k).head?, c.isDigit = false := by
    intro c hc
    have hmem : c ∈ ['Z'] := List.mem_of_mem_take (List.mem_of_mem_head? hc)
    rw [List.mem_singleton.1 hmem]
    rfl
  have htaken : ((padded width n ++ ['Z']).take 9).takeWhile Char.isDigit = padded width n := by
    rw [List.take_append, List.take_of_length_le (by omega)]
    exact (takeWhile_append_of_head (allDigits_padded width n) hend).1
  have hdropped : (padded width n ++ ['Z']).dropWhile Char.isDigit = ['Z'] :=
    (takeWhile_append_of_head (allDigits_padded width n) (hend (k := 1))).2
  simp only [fractionAt, htaken, hdropped, hempty, hlength, decimalValue_padded]
  rfl

theorem fractionAt_writeFraction (h : n < 1000000000) :
    fractionAt (writeFraction n ++ ['Z']) = some (n, ['Z']) := by
  unfold writeFraction
  split
  · next hzero =>
    subst hzero
    rfl
  · split
    · next hmillis =>
      rw [List.cons_append, fractionAt_point (by decide) (by decide) (by omega)]
      have hn : n / 1000000 * 10 ^ (9 - 3) = n := by omega
      rw [hn]
    · split
      · next hmicros =>
        rw [List.cons_append, fractionAt_point (by decide) (by decide) (by omega)]
        have hn : n / 1000 * 10 ^ (9 - 6) = n := by omega
        rw [hn]
      · rw [List.cons_append, fractionAt_point (by decide) (by decide) (by omega), Nat.sub_self,
          Nat.pow_zero, Nat.mul_one]

theorem parseChars?_clock {clock : ClockTime} (h : clock.Valid) (hn : n < 1000000000) :
    parseChars? (writeDate clock ++ 'T' :: writeTime clock n ++ ['Z']) = ofClock? clock n 0 := by
  obtain ⟨hdate, hhour, hminute, hsecond⟩ := h
  have hmonth : clock.month < 100 := lt_of_le_of_lt hdate.2.1 (by decide)
  have hday : clock.day < 100 :=
    lt_of_le_of_lt (hdate.2.2.2.trans (daysInMonth_le _ _)) (by decide)
  have hhour : clock.hour < 100 := hhour.trans (by decide)
  have hminute : clock.minute < 100 := hminute.trans (by decide)
  have hsecond : clock.second < 100 := hsecond.trans (by decide)
  have htext : writeDate clock ++ 'T' :: writeTime clock n ++ ['Z'] =
      writeYear clock.year ++ '-' :: (padded 2 clock.month ++ '-' :: (padded 2 clock.day ++
        'T' :: (padded 2 clock.hour ++ ':' :: (padded 2 clock.minute ++
          ':' :: (padded 2 clock.second ++ (writeFraction n ++ ['Z'])))))) := by
    simp [writeDate, writeTime]
  rw [htext, parseChars?, yearAt_writeYear, Option.bind_eq_bind, Option.bind_some]
  dsimp only
  rw [markAt_self (c := '-') rfl, Option.bind_eq_bind, Option.bind_some, numberAt_two hmonth,
    Option.bind_eq_bind, Option.bind_some]
  dsimp only
  rw [markAt_self (c := '-') rfl, Option.bind_some, numberAt_two hday, Option.bind_some]
  -- the letter between date and time is matched, not read by `markAt`
  simp only
  rw [Option.bind_some, numberAt_two hhour, Option.bind_some]
  dsimp only
  rw [markAt_self (c := ':') rfl, Option.bind_some, numberAt_two hminute, Option.bind_some]
  dsimp only
  rw [markAt_self (c := ':') rfl, Option.bind_some, numberAt_two hsecond, Option.bind_some]
  dsimp only
  rw [fractionAt_writeFraction hn, Option.bind_some]
  rfl

theorem nanos_eq (t : Instant) : t.clock.seconds * 1000000000 + t.fraction = t.nanos := by
  rw [Instant.seconds_clock, Instant.fraction, Instant.seconds]
  omega

theorem ofClock?_clock (t : Timestamp) (h : t.leap = false) :
    ofClock? t.shown.clock t.shown.fraction 0 = some t := by
  obtain ⟨hdate, hhour, hminute, hsecond⟩ := ClockTime.ofSeconds_valid t.shown.seconds
  have hleap : decide (t.shown.clock.second = 60) = false := decide_eq_false hsecond.ne
  simp only [ofClock?, hleap, Bool.false_eq_true, if_false, Int.sub_zero, nanos_eq]
  rw [if_pos ⟨hdate, hhour, hminute, hsecond, by decide, t.representable⟩,
    dif_pos t.representable]
  cases t
  simp_all

/-- A timestamp that is no leap second is the one that its text spells. -/
theorem parse?_write (t : Timestamp) (h : t.leap = false) : parse? t.write = some t := by
  have hfraction : t.shown.fraction < 1000000000 := by
    rw [Instant.fraction]
    omega
  have htext : t.writeChars =
      writeDate t.shown.clock ++ 'T' :: writeTime t.shown.clock t.shown.fraction ++ ['Z'] := by
    simp [writeChars, h]
  have hvalid : t.shown.clock.Valid := ClockTime.ofSeconds_valid _
  rw [parse?, write, String.toList_ofList, htext, parseChars?_clock hvalid hfraction,
    ofClock?_clock t h]

/-- No instant in a leap second's own second is after it, and every later one is. -/
theorem instant_le_iff_of_leap {t : Timestamp} (h : t.leap = true) {u : Instant} :
    t.instant ≤ u ↔ t.shown.seconds < u.seconds := by
  rw [instant, if_pos h, ← not_lt, Instant.lt_ofSeconds_iff]
  omega

end FeatureFlags.Time.Timestamp
