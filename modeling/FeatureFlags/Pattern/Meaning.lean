import FeatureFlags.Pattern.Parser
import FeatureFlags.Pattern.Regex
import FeatureFlags.Text.Break

namespace FeatureFlags.Pattern

open Text

namespace Class

def ofRuns (runs : List (Nat × Nat)) : CharSet :=
  .unions (runs.map fun (first, last) => .range first last)

def ascii : CharSet := .range 0 0x7F

def all : CharSet := .range 0 0x10FFFF

def digit : CharSet := Category.ofCode "nd"

def space : CharSet := (Property.find? "whitespace").getD .empty

def word : CharSet :=
  .unions ((["alphabetic", "joincontrol"].filterMap Property.find?) ++
    ["mc", "me", "mn", "nd", "pc"].map Category.ofCode)

def short : ShortClass → CharSet
  | .digit => digit
  | .space => space
  | .word => word

def asciiWord : CharSet := ofRuns [(0x30, 0x39), (0x41, 0x5A), (0x5F, 0x5F), (0x61, 0x7A)]

def asciiShort : ShortClass → CharSet
  | .digit => .range 0x30 0x39
  | .space => ofRuns [(9, 13), (0x20, 0x20)]
  | .word => asciiWord

def posix : PosixClass → CharSet
  | .alnum => ofRuns [(0x30, 0x39), (0x41, 0x5A), (0x61, 0x7A)]
  | .alpha => ofRuns [(0x41, 0x5A), (0x61, 0x7A)]
  | .ascii => ascii
  | .blank => ofRuns [(9, 9), (0x20, 0x20)]
  | .cntrl => ofRuns [(0, 0x1F), (0x7F, 0x7F)]
  | .digit => .range 0x30 0x39
  | .graph => .range 0x21 0x7E
  | .lower => .range 0x61 0x7A
  | .print => .range 0x20 0x7E
  | .punct => ofRuns [(0x21, 0x2F), (0x3A, 0x40), (0x5B, 0x60), (0x7B, 0x7E)]
  | .space => ofRuns [(9, 13), (0x20, 0x20)]
  | .upper => .range 0x41 0x5A
  | .word => asciiWord
  | .xdigit => ofRuns [(0x30, 0x39), (0x41, 0x46), (0x61, 0x66)]

end Class

/-- A name in lower case without blanks, underscores, hyphens and a leading `is`. -/
def looseName (name : List Char) : String :=
  let clean := fun (s : List Char) =>
    ((s.filter fun c => c.toNat < 0x80 && c ≠ ' ' && c ≠ '_' && c ≠ '-').map Char.toLower)
  match name.map Char.toLower with
  | 'i' :: 's' :: _ =>
    if clean (name.drop 2) = ['c'] then "isc" else String.ofList (clean (name.drop 2))
  | _ => String.ofList (clean name)

def categoryValue? (name : String) : Option CharSet :=
  match name with
  | "any" => some Class.all
  | "assigned" => some (.compl (Category.ofCode "cn"))
  | "ascii" => some Class.ascii
  | name => Category.find? name

/-- A name alone is that of a property, of a category or of a script. Three names of properties give
way to categories. -/
def PropertyName.set? : PropertyName → Option CharSet
  | single name =>
    let name := looseName name
    let property := if ["cf", "sc", "lc"].contains name then none else Property.find? name
    property <|> categoryValue? name <|> Script.find? name
  | valued property value =>
    let value := looseName value
    match looseName property with
    | "gc" | "generalcategory" => categoryValue? value
    | "sc" | "script" => Script.find? value
    | "scx" | "scriptextensions" => Script.findExtended? value
    | "age" => findAge? value
    | "gcb" | "graphemeclusterbreak" => Property.findIn? Break.graphemes value
    | "wb" | "wordbreak" => Property.findIn? Break.words value
    | "sb" | "sentencebreak" => Property.findIn? Break.sentences value
    | _ => none

structure Flags where
  caseless : Bool
  multiLine : Bool
  dotAll : Bool
  unicode : Bool
  crlf : Bool

namespace Flags

def initial : Flags := ⟨false, false, false, true, false⟩

def apply (change : FlagChange) (f : Flags) : Flags where
  caseless := (change.get? .caseless).getD f.caseless
  multiLine := (change.get? .multiLine).getD f.multiLine
  dotAll := (change.get? .dotAll).getD f.dotAll
  unicode := (change.get? .unicode).getD f.unicode
  crlf := (change.get? .crlf).getD f.crlf

/-- Closes a set under case where case does not count. -/
def fold (f : Flags) (s : CharSet) : CharSet :=
  if !f.caseless then s
  else if f.unicode then .folded s
  else .inter (.folded s) Class.ascii

/-- Case first, then negation; a negated set is never within ASCII. -/
def foldAndNegate (f : Flags) (negated : Bool) (s : CharSet) : Option CharSet :=
  if !negated then some (f.fold s)
  else if f.unicode then some (.compl (f.fold s))
  else none

/-- A character by itself; without `unicode` case counts beyond ASCII, and a byte there is refused.
-/
def literal? (f : Flags) (c : Char) (byte : Bool) : Option CharSet :=
  if f.unicode || c.toNat < 0x80 then some (f.fold (.single c))
  else if byte then none
  else some (.single c)

end Flags

namespace Atom

def short? (f : Flags) (kind : ShortClass) (negated : Bool) : Option CharSet :=
  if f.unicode then
    some (if negated then .compl (Class.short kind) else Class.short kind)
  else if negated then none
  else some (Class.asciiShort kind)

def property? (f : Flags) (name : PropertyName) (negated : Bool) : Option CharSet :=
  if f.unicode then do f.foldAndNegate negated (← name.set?) else none

def member? (f : Flags) : Atom → Option CharSet
  | literal c _ => if f.unicode || c.toNat < 0x80 then some (.single c) else none
  | short kind negated => short? f kind negated
  | property name negated => property? f name negated
  | _ => none

end Atom

mutual

def SetTree.meaning? (f : Flags) : SetTree → Option CharSet
  | .empty => some .empty
  | .atom a => a.member? f
  | .range first last _ =>
    if f.unicode || (first.toNat < 0x80 && last.toNat < 0x80) then
      some (.range first.toNat last.toNat)
    else none
  | .posix kind negated => f.foldAndNegate negated (Class.posix kind)
  | .bracket negated s => do f.foldAndNegate negated (← s.meaning? f)
  | .union s items => do return .union (← s.meaning? f) (← unionMeaning? f items)
  | .operation op s t => do
    let s := f.fold (← s.meaning? f)
    let t := f.fold (← t.meaning? f)
    match op with
    | .intersection => return s.inter t
    | .difference => return s.diff t
    | .symmetricDifference => return s.symmDiff t

def unionMeaning? (f : Flags) : List SetTree → Option CharSet
  | [] => some .empty
  | s :: items => do return .union (← s.meaning? f) (← unionMeaning? f items)

end

namespace Anchor

def isWord (set : CharSet) (c : Option Char) : Bool := c.any fun c => set.contains c.toNat

/-- A line feed ends a line; with carriage returns, either ends one and the two together end one. -/
def lineStart (crlf : Bool) (before behind : Option Char) : Bool :=
  before.isNone || before == some '\n' || (crlf && before == some '\r' && behind != some '\n')

def lineEnd (crlf : Bool) (before behind : Option Char) : Bool :=
  behind.isNone || (behind == some '\n' && !(crlf && before == some '\r')) ||
    (crlf && behind == some '\r')

def look (f : Flags) (a : Anchor) : Look where
  holds before behind :=
    let words := if f.unicode then Class.word else Class.asciiWord
    match a with
    | textStart => before.isNone
    | textEnd => behind.isNone
    | caret => if f.multiLine then lineStart f.crlf before behind else before.isNone
    | dollar => if f.multiLine then lineEnd f.crlf before behind else behind.isNone
    | wordBoundary => isWord words before != isWord words behind
    | noWordBoundary => isWord words before == isWord words behind
    | wordStart => !isWord words before && isWord words behind
    | wordEnd => isWord words before && !isWord words behind
    | halfWordStart => !isWord words before
    | halfWordEnd => !isWord words behind

end Anchor

namespace Atom

def lineEnds (f : Flags) : CharSet :=
  if f.dotAll then .empty
  else if f.crlf then .union (.single '\n') (.single '\r')
  else .single '\n'

def meaning? (f : Flags) : Atom → Option Regex
  | literal c byte => (f.literal? c byte).map .char
  | dot => if f.unicode then some (.char (.compl (lineEnds f))) else none
  | anchor a => some (.look (a.look f))
  | a => (a.member? f).map .char

end Atom

mutual

def Tree.meaning? (f : Flags) : Tree → Option (Regex × Flags)
  | .empty => some (.empty, f)
  | .atom a => (a.meaning? f).map (·, f)
  | .bracket negated s => do return (.char (← (SetTree.bracket negated s).meaning? f), f)
  | .flags change => some (.empty, f.apply change)
  | .group change t => do
    let (r, _) ← t.meaning? (f.apply change)
    return (r, f)
  | .repetition least greatest t => do
    let (r, f) ← t.meaning? f
    return (.repetition least greatest r, f)
  | .sequence items => sequenceMeaning? f items
  | .alternation [] => some (.char .empty, f)
  | .alternation (t :: branches) => do
    let (r, f) ← t.meaning? f
    branchesMeaning? f r branches

def sequenceMeaning? (f : Flags) : List Tree → Option (Regex × Flags)
  | [] => some (.empty, f)
  | t :: items => do
    let (r, f) ← t.meaning? f
    let (s, f) ← sequenceMeaning? f items
    return (.sequence r s, f)

def branchesMeaning? (f : Flags) (r : Regex) : List Tree → Option (Regex × Flags)
  | [] => some (r, f)
  | t :: branches => do
    let (s, f) ← t.meaning? f
    branchesMeaning? f (.either r s) branches

end

def Regex.maxBytes : Nat := 10 * 1024 * 1024

def Regex.parse? (pattern : String) : Option Regex := do
  let (r, _) ← (← Tree.parse? pattern).meaning? .initial
  if r.bytes ≤ maxBytes then some r else none

def isMatch (pattern text : String) : Bool :=
  (Regex.parse? pattern).any (·.isIn text.toList)

end FeatureFlags.Pattern
