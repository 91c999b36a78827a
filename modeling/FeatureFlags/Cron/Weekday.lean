import FeatureFlags.Cron.Error
import FeatureFlags.Text.Digits

namespace FeatureFlags.Cron.Weekday

/-- A day in the calendar's numbering. -/
def renumber (day : Nat) : Nat := day % 7 + 1

def digits (n : Nat) : List Char := (toString n).toList

def number? (token : List Char) : Except Error (Option Nat) :=
  if token.isEmpty || !token.all Char.isDigit then .ok none
  else if Text.decimalValue token ≤ 7 then .ok (some (Text.decimalValue token))
  else .error (.weekday (String.ofList token))

/-- A range that ends on a Sunday after it began is cut in two, unless a step runs through it. -/
def renumberRange (first last : Nat) (stepped : Bool) (item : List Char) :
    Except Error (List (List Char)) :=
  if last < first then .error (.weekday (String.ofList item))
  else if last < 7 ∨ first = 0 then
    .ok [digits (renumber first) ++ '-' :: digits (renumber (min last 6))]
  else if stepped then .error (.weekday (String.ofList item))
  else if first = 7 then .ok [digits (renumber 7)]
  else .ok [digits (renumber first) ++ ['-', '7'], digits (renumber 7)]

def renumberSpan (span : List Char) (stepped : Bool) (item : List Char) :
    Except Error (List (List Char)) := do
  if span = ['*'] ∨ span = ['?'] then return [span]
  match Text.cutAt? '-' span with
  | some (first, last) =>
    match ← number? first, ← number? last with
    | some first, some last => renumberRange first last stepped item
    | _, _ => return [span]
  | none =>
    match ← number? span with
    | some day => return [digits (renumber day)]
    | none => return [span]

def renumberItem (item : List Char) : Except Error (List (List Char)) :=
  match Text.cutAt? '/' item with
  | none => renumberSpan item false item
  | some (span, step) => do
    match ← renumberSpan span true item with
    | [span] => return [span ++ '/' :: step]
    | _ => .error (.weekday (String.ofList item))

def renumberField (field : List Char) : Except Error (List Char) := do
  return Text.joinWith ',' (← (Text.splitAt ',' field).mapM renumberItem).flatten

end FeatureFlags.Cron.Weekday
