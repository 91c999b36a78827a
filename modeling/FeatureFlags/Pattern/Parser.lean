import FeatureFlags.Pattern.Scanner

namespace FeatureFlags.Pattern.Parser

open Scanner

/-- Several items make a union, one stands for itself. -/
def unionOf : List SetTree → SetTree
  | [] => .empty
  | [s] => s
  | s :: items => .union s items

/-- Operators of a set have one strength and group to the left. -/
def close (pending : Option (SetTree × SetOperator)) (items : List SetTree) : SetTree :=
  match pending with
  | some (s, op) => .operation op s (unionOf items.reverse)
  | none => unionOf items.reverse

def posixClass? (name : List Char) : Option PosixClass :=
  match String.ofList name with
  | "alnum" => some .alnum
  | "alpha" => some .alpha
  | "ascii" => some .ascii
  | "blank" => some .blank
  | "cntrl" => some .cntrl
  | "digit" => some .digit
  | "graph" => some .graph
  | "lower" => some .lower
  | "print" => some .print
  | "punct" => some .punct
  | "space" => some .space
  | "upper" => some .upper
  | "word" => some .word
  | "xdigit" => some .xdigit
  | _ => none

def posixAt (s : List Char) : Option (SetTree × List Char) :=
  match s with
  | ':' :: s => do
    let (negated, s) := match s with
      | '^' :: s => (true, s)
      | s => (false, s)
    match ← Text.cutAt? ':' s with
    | (name, ']' :: rest) => return (.posix (← posixClass? name) negated, rest)
    | _ => none
  | _ => none

def leadingHyphens (x : Bool) : (fuel : Nat) → List SetTree → List Char → List SetTree × List Char
  | fuel + 1, items, '-' :: rest =>
    leadingHyphens x fuel (.atom (.literal '-' false) :: items) (skip x rest)
  | _, items, s => (items, s)

/-- The start of a set after its opening bracket: a caret negates it, and a closing bracket in the
first place stands for itself. -/
def setStartAt (x : Bool) (s : List Char) : Bool × List SetTree × List Char :=
  let s := skip x s
  let (negated, s) := match s with
    | '^' :: rest => (true, skip x rest)
    | s => (false, s)
  let (items, s) := leadingHyphens x s.length [] s
  match items, s with
  | [], ']' :: rest => (negated, [.atom (.literal ']' false)], skip x rest)
  | items, s => (negated, items, s)

def setAtomAt (x : Bool) : List Char → Option (Atom × List Char)
  | [] => none
  | '\\' :: rest => escapeAt x rest
  | c :: rest => some (.literal c false, rest)

def member? : Atom → Option SetTree
  | .anchor _ => none
  | a => some (.atom a)

def rangeOf? : Atom → Atom → Option SetTree
  | .literal a p, .literal b q => if a ≤ b then some (.range a b (p || q)) else none
  | _, _ => none

/-- A member, or a range; a hyphen before the end of the set or before another hyphen opens none. -/
def setItemAt (x : Bool) (s : List Char) : Option (SetTree × List Char) := do
  let (first, s) ← setAtomAt x s
  match skip x s with
  | '-' :: rest =>
    if peek? x rest = some ']' ∨ peek? x rest = some '-' then
      return (← member? first, '-' :: rest)
    else
      let (last, s) ← setAtomAt x (skip x rest)
      return (← rangeOf? first last, s)
  | s => return (← member? first, s)

def operatorAt : List Char → Option (SetOperator × List Char)
  | '&' :: '&' :: rest => some (.intersection, rest)
  | '-' :: '-' :: rest => some (.difference, rest)
  | '~' :: '~' :: rest => some (.symmetricDifference, rest)
  | _ => none

def setAt (x : Bool) : (fuel : Nat) → (pending : Option (SetTree × SetOperator)) →
    (items : List SetTree) → List Char → Option (SetTree × List Char)
  | 0, _, _, _ => none
  | fuel + 1, pending, items, s =>
    match skip x s with
    | [] => none
    | ']' :: rest => some (close pending items, rest)
    | '[' :: rest =>
      match posixAt rest with
      | some (item, rest) => setAt x fuel pending (item :: items) rest
      | none => do
        let (negated, first, rest) := setStartAt x rest
        let (s, rest) ← setAt x fuel none first rest
        setAt x fuel pending (.bracket negated s :: items) rest
    | s =>
      match operatorAt s with
      | some (op, rest) => setAt x fuel (some (close pending items, op)) [] rest
      | none => do
        let (item, rest) ← setItemAt x s
        setAt x fuel pending (item :: items) rest

structure State where
  extended : Bool
  names : List (List Char)

/-- How a group starts after its opening parenthesis. -/
inductive Opening where
  | group (change : FlagChange)
  | named (name : List Char)
  | flags (change : FlagChange)

/-- Refuses conditions on what stands before or behind. -/
def openingAt (s : List Char) : Option (Opening × List Char) :=
  match s with
  | '?' :: '=' :: _ => none
  | '?' :: '!' :: _ => none
  | '?' :: '<' :: '=' :: _ => none
  | '?' :: '<' :: '!' :: _ => none
  | '?' :: 'P' :: '<' :: rest => (groupNameAt rest).map fun (name, rest) => (.named name, rest)
  | '?' :: '<' :: rest => (groupNameAt rest).map fun (name, rest) => (.named name, rest)
  | '?' :: rest => do
    let (change, mark, rest) ← flagsAt true [] rest
    if mark = ':' then some (.group change, rest)
    else if change.isEmpty then none
    else some (.flags change, rest)
  | s => some (.group [], s)

def sequenceOf : List Tree → Tree
  | [] => .empty
  | [t] => t
  | items => .sequence items

/-- The pattern of the branches and of the items of the last one, all in reverse. -/
def finish (branches : List Tree) (items : List Tree) : Tree :=
  match branches with
  | [] => sequenceOf items.reverse
  | branches => .alternation (sequenceOf items.reverse :: branches).reverse

def repeatLast? (least : Nat) (greatest : Option Nat) : List Tree → Option (List Tree)
  | [] => none
  | .flags _ :: _ => none
  | t :: items => some (.repetition least greatest t :: items)

/-- A question mark after a repetition only makes it take less. -/
def skipLazy : List Char → List Char
  | '?' :: rest => rest
  | s => s

def atomAt (x : Bool) : List Char → Option (Atom × List Char)
  | [] => none
  | '\\' :: rest => escapeAt x rest
  | '.' :: rest => some (.dot, rest)
  | '^' :: rest => some (.anchor .caret, rest)
  | '$' :: rest => some (.anchor .dollar, rest)
  | c :: rest => some (.literal c false, rest)

def groupAt : (fuel : Nat) → State → (branches items : List Tree) → List Char →
    Option (Tree × State × List Char)
  | 0, _, _, _, _ => none
  | fuel + 1, state, branches, items, s =>
    let x := state.extended
    match skip x s with
    | [] => some (finish branches items, state, [])
    | ')' :: rest => some (finish branches items, state, ')' :: rest)
    | '|' :: rest => groupAt fuel state (sequenceOf items.reverse :: branches) [] rest
    | '(' :: rest => do
      match ← openingAt (skip x rest) with
      | (.flags change, rest) =>
        let extended := (change.get? .extended).getD x
        groupAt fuel { state with extended } branches (.flags change :: items) rest
      | (.group change, rest) =>
        let extended := (change.get? .extended).getD x
        let (t, inner, rest) ← groupAt fuel { state with extended } [] [] rest
        match rest with
        | ')' :: rest =>
          groupAt fuel { inner with extended := x } branches (.group change t :: items) rest
        | _ => none
      | (.named name, rest) =>
        if state.names.contains name then none
        else
          let (t, inner, rest) ← groupAt fuel { state with names := name :: state.names } [] [] rest
          match rest with
          | ')' :: rest =>
            groupAt fuel { inner with extended := x } branches (.group [] t :: items) rest
          | _ => none
    | '[' :: rest => do
      let (negated, first, rest) := setStartAt x rest
      let (set, rest) ← setAt x rest.length none first rest
      groupAt fuel state branches (.bracket negated set :: items) rest
    | '?' :: rest => do
      groupAt fuel state branches (← repeatLast? 0 (some 1) items) (skipLazy rest)
    | '*' :: rest => do groupAt fuel state branches (← repeatLast? 0 none items) (skipLazy rest)
    | '+' :: rest => do groupAt fuel state branches (← repeatLast? 1 none items) (skipLazy rest)
    | '\x7b' :: rest => do
      let ((least, greatest), rest) ← boundsAt x rest
      groupAt fuel state branches (← repeatLast? least greatest items) (skipLazy (skip x rest))
    | s => do
      let (a, rest) ← atomAt x s
      groupAt fuel state branches (.atom a :: items) rest

end Parser

def Tree.parse? (text : String) : Option Tree := do
  let s := text.toList
  let (t, _, rest) ← Parser.groupAt (s.length + 1) ⟨false, []⟩ [] [] s
  if rest.isEmpty ∧ t.depth ≤ maxDepth then some t else none

end FeatureFlags.Pattern
