import FeatureFlags.Text.Digits

namespace FeatureFlags

structure Uuid where
  value : BitVec 128
deriving DecidableEq

namespace Uuid

instance : LT Uuid := ⟨fun u v => u.value.toNat < v.value.toNat⟩
instance : LE Uuid := ⟨fun u v => u.value.toNat ≤ v.value.toNat⟩
instance : DecidableLT Uuid := fun u v =>
  inferInstanceAs (Decidable (u.value.toNat < v.value.toNat))

instance : Std.IsLinearOrder Uuid where
  le_refl u := Nat.le_refl u.value.toNat
  le_trans _ _ _ huv hvw := Nat.le_trans huv hvw
  le_antisymm _ _ huv hvu := congrArg mk (BitVec.eq_of_toNat_eq (Nat.le_antisymm huv hvu))
  le_total u v := Nat.le_total u.value.toNat v.value.toNat

instance : Std.LawfulOrderLT Uuid where
  lt_iff _ _ := Nat.lt_iff_le_and_not_ge

def digits : (count : Nat) → Nat → List Nat
  | 0, _ => []
  | count + 1, n => digits count (n / 16) ++ [n % 16]

def hyphenate (s : List Char) : List Char :=
  s.take 8 ++ '-' :: (s.drop 8).take 4 ++ '-' :: (s.drop 12).take 4 ++ '-' :: (s.drop 16).take 4 ++
    '-' :: s.drop 20

def unhyphenate? (s : List Char) : Option (List Char) :=
  let bare := s.take 8 ++ (s.drop 9).take 4 ++ (s.drop 14).take 4 ++ (s.drop 19).take 4 ++ s.drop 24
  if hyphenate bare = s then some bare else none

def write (u : Uuid) : String :=
  String.ofList (hyphenate ((digits 32 u.value.toNat).map Text.hexDigit))

/-- The 32 digits of one of the four written forms: bare, hyphenated, in braces, or behind
`urn:uuid:` in any case. -/
def bareDigits? (s : List Char) : Option (List Char) :=
  match s.length with
  | 32 => some s
  | 36 => unhyphenate? s
  | 38 =>
    if s.head? = some '\x7b' ∧ s.getLast? = some '\x7d' then unhyphenate? ((s.drop 1).take 36)
    else none
  | 45 => if (s.take 9).map Char.toLower = "urn:uuid:".toList then unhyphenate? (s.drop 9) else none
  | _ => none

def parse? (text : String) : Option Uuid := do
  return ⟨BitVec.ofNat 128 (← Text.hexNumber? (← bareDigits? text.toList))⟩

end Uuid

end FeatureFlags
