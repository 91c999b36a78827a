import FeatureFlags.Json.Basic

namespace FeatureFlags.Json

structure Numeral where
  negative : Bool
  whole : List Nat
  fraction : List Nat
  exponent : Option (Bool × List Nat)

namespace Numeral

def ofDigits (digits : List Nat) : Nat := digits.foldl (fun n d => 10 * n + d) 0

/-- Takes digits on while the number has 64 bits; also the digits left over. -/
def absorb : Nat → List Nat → Nat × List Nat
  | n, [] => (n, [])
  | n, d :: ds => if 10 * n + d < UInt64.size then absorb (10 * n + d) ds else (n, d :: ds)

def powerOfTen? (k : Nat) : Option Binary64 := Binary64.ofDecimal? false 1 k

/-- Divides by ten `k` times, in steps of at most 308. -/
def scaleDown (x : Binary64) (k : Nat) : Option Binary64 :=
  if k ≤ 308 then do x.div? (← powerOfTen? k)
  else if x.isZero then some x
  else do
    let y ← x.div? (← powerOfTen? 308)
    scaleDown y (k - 308)
termination_by k

def scale (x : Binary64) (exponent : Int) : Option Binary64 :=
  if exponent < 0 then scaleDown x exponent.natAbs
  else if x.isZero then some x
  else if exponent ≤ 308 then do x.mul? (← powerOfTen? exponent.natAbs)
  else none

def real? (numeral : Numeral) : Option Binary64 := do
  let (whole, left) := absorb 0 numeral.whole
  let (significand, lost) := absorb whole numeral.fraction
  let taken := numeral.fraction.length - lost.length
  let written : Int := match numeral.exponent with
    | none => 0
    | some (true, digits) => -(ofDigits digits : Int)
    | some (false, digits) => ofDigits digits
  let x ← Binary64.ofInt? significand
  let y ← scale x (left.length - taken + written)
  return if numeral.negative then y.neg else y

/-- The number a numeral stands for. Negative zero is a double. -/
def number? (numeral : Numeral) : Option Number :=
  let n := ofDigits numeral.whole
  if numeral.fraction.isEmpty && numeral.exponent.isNone && n < UInt64.size &&
      !(numeral.negative && (n == 0 || -(n : Int) < Int64.minValue.toInt)) then
    some (.integer (if numeral.negative then -n else n))
  else numeral.real?.map .real

end Numeral

end FeatureFlags.Json
