namespace FeatureFlags.Text

/-- Code points at one distance from each other, and where a table sends the first of them. -/
structure CodeRun where
  first : Nat
  last : Nat
  stride : Nat
  image : Nat
deriving DecidableEq

namespace CodeRun

def contains (r : CodeRun) (n : Nat) : Bool :=
  r.first ≤ n && n ≤ r.last && (n - r.first) % r.stride == 0

def image? (r : CodeRun) (n : Nat) : Option Nat :=
  if r.contains n then some (r.image + (n - r.first)) else none

def preimage? (r : CodeRun) (n : Nat) : Option Nat :=
  let source := r.first + (n - r.image)
  if r.image ≤ n ∧ r.contains source then some source else none

def hexValue (c : Char) : Nat := if c.isDigit then c.toNat - 48 else c.toNat - 87

def isHex (c : Char) : Bool := c.isDigit || ('a' ≤ c && c ≤ 'f')

def hexAt (s : List Char) : Nat × List Char :=
  ((s.takeWhile isHex).foldl (fun n c => 16 * n + hexValue c) 0, s.dropWhile isHex)

/-- A number behind `mark`, or else `absent`. -/
def marked (mark : Char) (absent : Nat) (s : List Char) : Nat × List Char :=
  match s with
  | c :: rest => if c = mark then hexAt rest else (absent, s)
  | [] => (absent, [])

def parse (s : List Char) : CodeRun :=
  let (first, s) := hexAt s
  let (last, s) := marked '-' first s
  let (stride, s) := marked '/' 1 s
  let (image, _) := marked '>' first s
  ⟨first, last, stride, image⟩

def tokensFrom : List Char → List Char → List (List Char)
  | token, [] => if token.isEmpty then [] else [token.reverse]
  | token, c :: rest =>
    if c = ' ' ∨ c = '\n' then
      if token.isEmpty then tokensFrom [] rest else token.reverse :: tokensFrom [] rest
    else tokensFrom (c :: token) rest

def tokens (s : List Char) : List (List Char) := tokensFrom [] s

def parseTable (text : String) : List CodeRun := (tokens text.toList).map parse

def apply (table : List CodeRun) (n : Nat) : Nat := (table.findSome? (·.image? n)).getD n

end CodeRun

end FeatureFlags.Text
