import FeatureFlags.Json.Document
import FeatureFlags.Text.Digits

namespace FeatureFlags.Json

def depthLimit : Nat := 127

namespace Parser

def isBlank (c : Char) : Bool := c = ' ' || c = '\t' || c = '\n' || c = '\r'

def skipBlanks (s : List Char) : List Char := s.dropWhile isBlank

def digit? (c : Char) : Option Nat :=
  if '0' ≤ c ∧ c ≤ '9' then some (c.toNat - 48) else none

def digits (s : List Char) : List Nat × List Char :=
  ((s.takeWhile Char.isDigit).filterMap digit?, s.dropWhile Char.isDigit)

def digits1 (s : List Char) : Option (List Nat × List Char) :=
  match digits s with
  | ([], _) => none
  | ds => some ds

def whole : List Char → Option (List Nat × List Char)
  | '0' :: s => if s.head?.any Char.isDigit then none else some ([0], s)
  | s => digits1 s

def fraction : List Char → Option (List Nat × List Char)
  | '.' :: s => digits1 s
  | s => some ([], s)

def exponent (s : List Char) : Option (Option (Bool × List Nat) × List Char) :=
  match s with
  | c :: t =>
    if c = 'e' ∨ c = 'E' then
      let (negative, u) := match t with
        | '-' :: u => (true, u)
        | '+' :: u => (false, u)
        | u => (false, u)
      (digits1 u).map fun (ds, rest) => (some (negative, ds), rest)
    else some (none, s)
  | [] => some (none, s)

def numeral (s : List Char) : Option (Numeral × List Char) := do
  let (negative, s) := match s with
    | '-' :: t => (true, t)
    | t => (false, t)
  let (w, s) ← whole s
  let (f, s) ← fraction s
  let (e, s) ← exponent s
  return (⟨negative, w, f, e⟩, s)

/-- A character of a string, or a code unit written in hexadecimal. -/
inductive Piece where
  | char (c : Char)
  | unit (n : Nat)

def hexUnit : List Char → Option (Nat × List Char)
  | a :: b :: c :: d :: rest => (Text.hexNumber? [a, b, c, d]).map (·, rest)
  | _ => none

def escaped : List Char → Option (Piece × List Char)
  | 'u' :: rest => (hexUnit rest).map fun (n, rest) => (.unit n, rest)
  | c :: rest =>
    match c with
    | '"' | '\\' | '/' => some (.char c, rest)
    | 'b' => some (.char '\x08', rest)
    | 'f' => some (.char '\x0c', rest)
    | 'n' => some (.char '\n', rest)
    | 'r' => some (.char '\r', rest)
    | 't' => some (.char '\t', rest)
    | _ => none
  | [] => none

def pieces : Nat → List Char → Option (List Piece × List Char)
  | 0, _ => none
  | fuel + 1, s =>
    match s with
    | '"' :: rest => some ([], rest)
    | '\\' :: rest => do
      let (p, rest) ← escaped rest
      let (ps, rest) ← pieces fuel rest
      return (p :: ps, rest)
    | c :: rest =>
      if c.toNat < 0x20 then none
      else (pieces fuel rest).map fun (ps, rest) => (.char c :: ps, rest)
    | [] => none

def isLead (n : Nat) : Bool := 0xD800 ≤ n && n < 0xDC00
def isTrail (n : Nat) : Bool := 0xDC00 ≤ n && n < 0xE000

/-- Joins surrogate pairs; a half of one alone has no character. -/
def join : List Piece → Option (List Char)
  | [] => some []
  | .char c :: ps => (join ps).map (c :: ·)
  | .unit m :: .unit n :: ps =>
    if isLead m && isTrail n then
      (join ps).map (Char.ofNat (0x10000 + (m - 0xD800) * 0x400 + (n - 0xDC00)) :: ·)
    else if isLead m || isTrail m then none
    else (join (.unit n :: ps)).map (Char.ofNat m :: ·)
  | .unit m :: ps => if isLead m || isTrail m then none else (join ps).map (Char.ofNat m :: ·)

/-- A string after its opening quotation mark; the inner `none` is one without characters. -/
def string (s : List Char) : Option (Option String × List Char) :=
  (pieces (s.length + 1) s).map fun (ps, rest) => ((join ps).map String.ofList, rest)

def keyword : List Char → Option (Document × List Char)
  | 't' :: 'r' :: 'u' :: 'e' :: rest => some (.bool true, rest)
  | 'f' :: 'a' :: 'l' :: 's' :: 'e' :: rest => some (.bool false, rest)
  | 'n' :: 'u' :: 'l' :: 'l' :: rest => some (.null, rest)
  | _ => none

/-- A container, unless it lies too deep. -/
def within (room : Nat) (d : Document) : Document := if room = 0 then .unreadable else d

def objectOf (members : List (Option String × Document)) : Document :=
  match members.mapM fun (name, d) => name.map (·, d) with
  | some fields => .object fields
  | none => .unreadable

mutual

/-- A document at the front of `s`, inside which `room` more containers may nest. -/
def document : Nat → Nat → List Char → Option (Document × List Char)
  | 0, _, _ => none
  | fuel + 1, room, s =>
    match skipBlanks s with
    | '"' :: rest =>
      (string rest).map fun (text, rest) => (text.elim .unreadable .string, rest)
    | '[' :: rest =>
      match skipBlanks rest with
      | ']' :: rest => some (within room (.array []), rest)
      | rest => (items fuel (room - 1) rest).map fun (xs, rest) => (within room (.array xs), rest)
    | '\x7b' :: rest =>
      match skipBlanks rest with
      | '\x7d' :: rest => some (within room (.object []), rest)
      | rest =>
        (members fuel (room - 1) rest).map fun (fs, rest) => (within room (objectOf fs), rest)
    | c :: rest =>
      if c = '-' ∨ c.isDigit then
        (numeral (c :: rest)).map fun (n, rest) => (n.number?.elim .unreadable .number, rest)
      else keyword (c :: rest)
    | [] => none

def items : Nat → Nat → List Char → Option (List Document × List Char)
  | 0, _, _ => none
  | fuel + 1, room, s => do
    let (x, rest) ← document fuel room s
    match skipBlanks rest with
    | ',' :: rest => (items fuel room rest).map fun (xs, rest) => (x :: xs, rest)
    | ']' :: rest => some ([x], rest)
    | _ => none

def members : Nat → Nat → List Char → Option (List (Option String × Document) × List Char)
  | 0, _, _ => none
  | fuel + 1, room, s =>
    match skipBlanks s with
    | '"' :: rest => do
      let (name, rest) ← string rest
      match skipBlanks rest with
      | ':' :: rest => do
        let (x, rest) ← document fuel room rest
        match skipBlanks rest with
        | ',' :: rest => (members fuel room rest).map fun (fs, rest) => ((name, x) :: fs, rest)
        | '\x7d' :: rest => some ([(name, x)], rest)
        | _ => none
      | _ => none
    | _ => none

end

end Parser

def Document.parse? (text : String) : Option Document :=
  let s := text.toList
  match Parser.document (s.length + 1) depthLimit s with
  | some (d, rest) => if (Parser.skipBlanks rest).isEmpty then some d else none
  | none => none

def parse? (text : String) : Option Json := (Document.parse? text).bind Document.toJson?

end FeatureFlags.Json
