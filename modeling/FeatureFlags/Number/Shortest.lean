import FeatureFlags.Number.Binary64

namespace FeatureFlags

structure Decimal where
  digits : Nat
  exponent : Int
deriving DecidableEq

namespace Decimal

def strip : Nat → Decimal → Decimal
  | 0, d => d
  | fuel + 1, d =>
    if d.digits ≠ 0 ∧ d.digits % 10 = 0 then strip fuel ⟨d.digits / 10, d.exponent + 1⟩ else d

end Decimal

namespace Binary64

/-- The magnitude with all its digits: `2 ^ -1074` is `5 ^ 1074 * 10 ^ -1074`. -/
def exactDecimal (x : Binary64) : Decimal := ⟨x.units * .pow 5 1074, -1074⟩

/-- Whether a decimal, read as a magnitude, gives `x` up to its sign. -/
def readsBack (x : Binary64) (d : Decimal) : Bool :=
  ofDecimal? x.negative d.digits d.exponent = some x

/-- The decimal that drops the last `dropped` digits of `exact` and still reads back: the nearer of
the two neighbours, the even one at a tie. -/
def shorten? (x : Binary64) (dropped : Nat) : Option Decimal :=
  let exact := x.exactDecimal
  let step : Nat := .pow 10 dropped
  let below := exact.digits / step
  let twice := 2 * (exact.digits % step)
  let upFirst : Bool := step < twice ∨ (twice = step ∧ below % 2 = 1)
  let neighbours := if upFirst then [below + 1, below] else [below, below + 1]
  (neighbours.map fun digits => Decimal.mk digits (exact.exponent + dropped)).find? x.readsBack

/-- The shortest decimal that reads back. Seventeen digits always suffice. -/
def shortest (x : Binary64) : Decimal :=
  let size := (toString x.exactDecimal.digits).length
  let candidates := (List.range 17).map fun n => size - (n + 1)
  ((candidates.findSome? x.shorten?).getD x.exactDecimal).strip size

end Binary64

structure FloatLayout where
  least : Int
  bound : Int

namespace FloatLayout

/-- JSON text writes magnitudes from `1e-5` up to `1e16` positionally. -/
def json : FloatLayout := ⟨-5, 16⟩

def write (layout : FloatLayout) (x : Binary64) : String :=
  let sign := if x.negative then "-" else ""
  if x.isZero then sign ++ "0.0" else
    let d := x.shortest
    let digits := (toString d.digits).toList
    let lead : Int := d.exponent + digits.length - 1
    let body : List Char :=
      if layout.least ≤ lead ∧ lead < layout.bound then
        if lead < 0 then
          '0' :: '.' :: List.replicate (lead.natAbs - 1) '0' ++ digits
        else
          let whole := digits.take (lead.natAbs + 1)
          let rest := digits.drop (lead.natAbs + 1)
          whole ++ List.replicate (lead.natAbs + 1 - whole.length) '0' ++
            '.' :: (if rest.isEmpty then ['0'] else rest)
      else
        digits.take 1 ++ (if digits.length = 1 then [] else '.' :: digits.drop 1) ++
          'e' :: (if lead < 0 then '-' else '+') :: (toString lead.natAbs).toList
    sign ++ String.ofList body

end FloatLayout

end FeatureFlags
