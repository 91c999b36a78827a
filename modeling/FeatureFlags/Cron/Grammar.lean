import FeatureFlags.Cron.Field
import FeatureFlags.Text.Digits

namespace FeatureFlags.Cron

/-- What an item ranges over before a step thins it out. -/
inductive Span where
  | all
  | point (n : Nat)
  | range (first last : Nat)
  | namedRange (first last : List Char)

inductive Item where
  | span (s : Span)
  | stepped (s : Span) (step : Nat)
  | name (name : List Char)

namespace Span

def bounds? (u : CalendarUnit) : Span → Option (Nat × Nat)
  | all => some (u.least, u.greatest)
  | point n => if u.admits n then some (n, n) else none
  | range first last =>
    if u.admits first ∧ u.admits last ∧ first ≤ last then some (first, last) else none
  | namedRange first last => do
    let first ← u.named? first
    let last ← u.named? last
    if first ≤ last then some (first, last) else none

/-- With a step a single value opens a run to the greatest one. -/
def openBounds? (u : CalendarUnit) : Span → Option (Nat × Nat)
  | point n => if u.admits n then some (n, u.greatest) else none
  | s => s.bounds? u

end Span

def Item.progression? (u : CalendarUnit) : Item → Option Progression
  | span s => do
    let (first, last) ← s.bounds? u
    return ⟨first, last, 1⟩
  | stepped s step => do
    let (first, last) ← s.openBounds? u
    if 1 ≤ step ∧ step ≤ u.greatest then some ⟨first, last, step⟩ else none
  | name n => do
    let n ← u.named? n
    return ⟨n, n, 1⟩

namespace Grammar

def isGap (c : Char) : Bool := c = ' ' || c = '\t' || c = '\r' || c = '\n'

def skipGap (s : List Char) : List Char := s.dropWhile isGap

def numberAt (s : List Char) : Option (Nat × List Char) :=
  let s := skipGap s
  let ds := s.takeWhile Char.isDigit
  if ds.isEmpty ∨ UInt32.size ≤ Text.decimalValue ds then none
  else some (Text.decimalValue ds, skipGap (s.dropWhile Char.isDigit))

def nameAt (s : List Char) : Option (List Char × List Char) :=
  let s := skipGap s
  let name := s.takeWhile Char.isAlpha
  if name.isEmpty then none else some (name, skipGap (s.dropWhile Char.isAlpha))

def markAt (mark : Char) : List Char → Option (List Char)
  | c :: rest => if c = mark then some rest else none
  | [] => none

/-- The first reading that there is: a star, a range, a number, a range of names. -/
def spanAt (u : CalendarUnit) (s : List Char) : Option (Span × List Char) :=
  ((if u.mayBeAny then markAt '?' s else none).map (.all, ·)) <|>
    (markAt '*' s).map (.all, ·) <|>
    (do
      let (first, s) ← numberAt s
      let (last, s) ← numberAt (← markAt '-' s)
      return (.range first last, s)) <|>
    (numberAt s).map (fun (n, s) => (.point n, s)) <|>
    (do
      let (first, s) ← nameAt s
      let (last, s) ← nameAt (← markAt '-' s)
      return (.namedRange first last, s))

def itemAt (u : CalendarUnit) (s : List Char) : Option (Item × List Char) :=
  (do
    let (span, s) ← spanAt u s
    let (step, s) ← numberAt (← markAt '/' s)
    return (.stepped span step, s)) <|>
    (spanAt u s).map (fun (span, s) => (.span span, s)) <|>
    (nameAt s).map (fun (name, s) => (.name name, s))

/-- Items with commas between them, at most `fuel`; a comma before no item is left. -/
def itemsAt (u : CalendarUnit) : (fuel : Nat) → List Char → Option (List Item × List Char)
  | 0, _ => none
  | fuel + 1, s => do
    let (item, s) ← itemAt u s
    match (markAt ',' s).bind (itemsAt u fuel) with
    | some (items, s) => some (item :: items, s)
    | none => some ([item], s)

def fieldAt (u : CalendarUnit) (s : List Char) : Option (Field × List Char) := do
  let (items, s) ← itemsAt u s.length (skipGap s)
  return (⟨← items.mapM (Item.progression? u)⟩, skipGap s)

end Grammar

end FeatureFlags.Cron
