import FeatureFlags.Pattern.Tree
import FeatureFlags.Text.Blank
import FeatureFlags.Text.Digits
import FeatureFlags.Text.Property

namespace FeatureFlags.Pattern.Scanner

/-- Drops blanks, and comments from `#` to the end of the line. -/
def skipGaps : (comment : Bool) → List Char → List Char
  | _, [] => []
  | true, c :: rest => skipGaps (c ≠ '\n') rest
  | false, c :: rest =>
    if Text.isBlank c then skipGaps false rest
    else if c = '#' then skipGaps true rest
    else c :: rest

def skip (x : Bool) (s : List Char) : List Char := if x then skipGaps false s else s

/-- The character after this one and a gap; a comment hides nothing but its own mark. -/
def peek? (x : Bool) (s : List Char) : Option Char :=
  if x then
    let s := s.dropWhile Text.isBlank
    (match s with
      | '#' :: s => s.dropWhile Text.isBlank
      | s => s).head?
  else s.head?

def textUntil (mark : Char) (x : Bool) :
    (comment : Bool) → List Char → Option (List Char × List Char)
  | _, [] => none
  | true, c :: rest => textUntil mark x (c ≠ '\n') rest
  | false, c :: rest =>
    if x && Text.isBlank c then textUntil mark x false rest
    else if x && c = '#' then textUntil mark x true rest
    else if c = mark then some ([], rest)
    else (textUntil mark x false rest).map fun (text, rest) => (c :: text, rest)

def gappedDigits : (comment : Bool) → List Char → List Char × List Char
  | _, [] => ([], [])
  | true, c :: rest => gappedDigits (c ≠ '\n') rest
  | false, c :: rest =>
    if c.isDigit then
      let (ds, rest) := gappedDigits false rest
      (c :: ds, rest)
    else if Text.isBlank c then gappedDigits false rest
    else if c = '#' then gappedDigits true rest
    else ([], c :: rest)

def countAt (x : Bool) (s : List Char) : Option (Nat × List Char) :=
  let s := s.dropWhile Text.isBlank
  let (ds, rest) := if x then gappedDigits false s
    else (s.takeWhile Char.isDigit, (s.dropWhile Char.isDigit).dropWhile Text.isBlank)
  if ds.isEmpty ∨ UInt32.size ≤ Text.decimalValue ds then none
  else some (Text.decimalValue ds, rest)

def boundsAt (x : Bool) (s : List Char) : Option ((Nat × Option Nat) × List Char) := do
  let (least, s) ← countAt x (skip x s)
  let (greatest, s) ← match s with
    | ',' :: s =>
      match skip x s with
      | '\x7d' :: rest => some (none, '\x7d' :: rest)
      | s => (countAt x s).map fun (n, s) => (some n, s)
    | s => some (some least, s)
  match s with
  | '\x7d' :: rest => if greatest.all (least ≤ ·) then some ((least, greatest), rest) else none
  | _ => none

def flag? : Char → Option Flag
  | 'i' => some .caseless
  | 'm' => some .multiLine
  | 's' => some .dotAll
  | 'U' => some .swapGreed
  | 'u' => some .unicode
  | 'R' => some .crlf
  | 'x' => some .extended
  | _ => none

/-- Flags, each at most once, those after a minus sign put off; with the colon or the closing
parenthesis that ends them. -/
def flagsAt (on : Bool) (change : FlagChange) : List Char → Option (FlagChange × Char × List Char)
  | [] => none
  | c :: rest =>
    if c = ':' ∨ c = ')' then some (change, c, rest)
    else if c = '-' then
      if on ∧ rest.head? ≠ some ':' ∧ rest.head? ≠ some ')' then flagsAt false change rest else none
    else
      match flag? c with
      | none => none
      | some flag =>
        if (change.get? flag).isNone then flagsAt on ((flag, on) :: change) rest else none

def inProperty (name : String) (c : Char) : Bool :=
  ((Text.Property.find? name).getD .empty).contains c.toNat

def isAlphabetic (c : Char) : Bool := inProperty "alphabetic" c

/-- Letters and numbers of every kind. -/
def isAlphanumeric (c : Char) : Bool :=
  isAlphabetic c || ["nd", "nl", "no"].any fun code => (Text.Category.ofCode code).contains c.toNat

def mayStartName (c : Char) : Bool := c = '_' || isAlphabetic c

def mayContinueName (c : Char) : Bool :=
  c = '_' || c = '.' || c = '[' || c = ']' || isAlphanumeric c

def groupNameAt (s : List Char) : Option (List Char × List Char) := do
  let (name, rest) ← Text.cutAt? '>' s
  match name with
  | c :: cs => if mayStartName c ∧ cs.all mayContinueName then some (name, rest) else none
  | [] => none

def scalar? (digits : List Char) : Option Char := do
  let n ← Text.hexNumber? digits
  if digits.isEmpty then none
  else if n < 0xD800 ∨ (0xDFFF < n ∧ n ≤ 0x10FFFF) then some (Char.ofNat n)
  else none

def charsAt (x : Bool) : (count : Nat) → List Char → Option (List Char × List Char)
  | 0, s => some ([], s)
  | count + 1, s =>
    match skip x s with
    | [] => none
    | c :: rest => (charsAt x count rest).map fun (cs, rest) => (c :: cs, rest)

def codePointAt (x : Bool) (width : Nat) (s : List Char) : Option (Atom × List Char) :=
  match skip x s with
  | '\x7b' :: rest => do
    let (digits, rest) ← textUntil '\x7d' x false rest
    return (.literal (← scalar? digits) false, rest)
  | s => do
    let (digits, rest) ← charsAt x width s
    return (.literal (← scalar? digits) (width = 2), rest)

def cutAtPair? (a b : Char) : List Char → Option (List Char × List Char)
  | c :: d :: rest =>
    if c = a ∧ d = b then some ([], rest)
    else (cutAtPair? a b (d :: rest)).map fun (before, after) => (c :: before, after)
  | _ => none

def propertyName (text : List Char) : PropertyName :=
  match cutAtPair? '!' '=' text <|> Text.cutAt? ':' text <|> Text.cutAt? '=' text with
  | some (property, value) => .valued property value
  | none => .single text

def propertyAt (x negated : Bool) (s : List Char) : Option (Atom × List Char) :=
  match skip x s with
  | [] => none
  | '\x7b' :: rest => do
    let (text, rest) ← textUntil '\x7d' x false rest
    return (.property (propertyName text) negated, rest)
  | c :: rest => if c = '\\' then none else some (.property (.single [c]) negated, rest)

/-- A word boundary, perhaps of one side: after it stands nothing, or a name in braces. -/
def boundaryAt (x : Bool) (s : List Char) : Option (Atom × List Char) :=
  match s with
  | '\x7b' :: rest =>
    match skip x rest with
    | [] => none
    | c :: _ =>
      if c.isAlpha ∨ c = '-' then do
        let (name, rest) ← textUntil '\x7d' x false rest
        match String.ofList name with
        | "start" => some (.anchor .wordStart, rest)
        | "end" => some (.anchor .wordEnd, rest)
        | "start-half" => some (.anchor .halfWordStart, rest)
        | "end-half" => some (.anchor .halfWordEnd, rest)
        | _ => none
      else some (.anchor .wordBoundary, s)
  | s => some (.anchor .wordBoundary, s)

def controlOf? : Char → Option Char
  | 'a' => some '\x07'
  | 'f' => some '\x0c'
  | 't' => some '\t'
  | 'n' => some '\n'
  | 'r' => some '\r'
  | 'v' => some '\x0b'
  | _ => none

def anchorOf? : Char → Option Anchor
  | 'A' => some .textStart
  | 'z' => some .textEnd
  | 'B' => some .noWordBoundary
  | '<' => some .wordStart
  | '>' => some .wordEnd
  | _ => none

def shortOf? : Char → Option (ShortClass × Bool)
  | 'd' => some (.digit, false)
  | 'D' => some (.digit, true)
  | 's' => some (.space, false)
  | 'S' => some (.space, true)
  | 'w' => some (.word, false)
  | 'W' => some (.word, true)
  | _ => none

/-- What stands for itself after a backslash: all of ASCII but letters, digits and angle brackets.
-/
def isEscapable (c : Char) : Bool :=
  c.toNat < 0x80 && !c.isAlphanum && c ≠ '<' && c ≠ '>'

def escapeAt (x : Bool) : List Char → Option (Atom × List Char)
  | [] => none
  | 'x' :: rest => codePointAt x 2 rest
  | 'u' :: rest => codePointAt x 4 rest
  | 'U' :: rest => codePointAt x 8 rest
  | 'p' :: rest => propertyAt x false rest
  | 'P' :: rest => propertyAt x true rest
  | 'b' :: rest => boundaryAt x rest
  | c :: rest =>
    match shortOf? c, controlOf? c, anchorOf? c with
    | some (kind, negated), _, _ => some (.short kind negated, rest)
    | _, some c, _ => some (.literal c false, rest)
    | _, _, some a => some (.anchor a, rest)
    | _, _, _ => if isEscapable c then some (.literal c false, rest) else none

end FeatureFlags.Pattern.Scanner
