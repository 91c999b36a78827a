import FeatureFlags.Number.Binary64
import FeatureFlags.Text.Digits

namespace FeatureFlags.Binary64

def digitsAt (s : List Char) : List Char × List Char :=
  (s.takeWhile Char.isDigit, s.dropWhile Char.isDigit)

def signAt : List Char → Bool × List Char
  | '-' :: s => (true, s)
  | '+' :: s => (false, s)
  | s => (false, s)

/-- The exponent that ends a text: nothing, or a mark, a sign and digits. -/
def exponentOf? : List Char → Option Int
  | [] => some 0
  | mark :: s =>
    if mark = 'e' ∨ mark = 'E' then
      let (negative, s) := signAt s
      match digitsAt s with
      | ([], _) => none
      | (ds, []) => some (if negative then -(Text.decimalValue ds : Int) else Text.decimalValue ds)
      | _ => none
    else none

def parse? (s : List Char) : Option Binary64 := do
  let (negative, s) := signAt s
  let (whole, s) := digitsAt s
  let (fraction, s) := match s with
    | '.' :: s => digitsAt s
    | s => ([], s)
  if whole.isEmpty && fraction.isEmpty then none
  else
    let exponent ← exponentOf? s
    ofDecimal? negative (Text.decimalValue (whole ++ fraction)) (exponent - fraction.length)

end FeatureFlags.Binary64
