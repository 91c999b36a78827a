namespace FeatureFlags.Pattern

inductive Flag where
  | caseless
  | multiLine
  | dotAll
  /-- Repetitions take as little as they can; whether a text matches does not hang on it. -/
  | swapGreed
  | unicode
  | crlf
  | extended
deriving DecidableEq

abbrev FlagChange := List (Flag × Bool)

def FlagChange.get? (change : FlagChange) (flag : Flag) : Option Bool :=
  (change.find? (·.1 == flag)).map (·.2)

/-- Where in a text a condition on the two neighbouring characters holds. -/
inductive Anchor where
  | textStart
  | textEnd
  /-- The start of a line where lines are told apart, else of the text. -/
  | caret
  | dollar
  | wordBoundary
  | noWordBoundary
  | wordStart
  | wordEnd
  | halfWordStart
  | halfWordEnd
deriving DecidableEq

inductive ShortClass where
  | digit
  | space
  | word
deriving DecidableEq

inductive PosixClass where
  | alnum
  | alpha
  | ascii
  | blank
  | cntrl
  | digit
  | graph
  | lower
  | print
  | punct
  | space
  | upper
  | word
  | xdigit
deriving DecidableEq

/-- A property by its name alone, or by the names of a property and of one of its values. -/
inductive PropertyName where
  | single (name : List Char)
  | valued (property value : List Char)

inductive Atom where
  /-- A character; `byte` if it is written as the two hexadecimal digits of a byte. -/
  | literal (c : Char) (byte : Bool)
  | short (kind : ShortClass) (negated : Bool)
  | property (name : PropertyName) (negated : Bool)
  | anchor (a : Anchor)
  | dot

inductive SetOperator where
  | intersection
  | difference
  | symmetricDifference
deriving DecidableEq

inductive SetTree where
  | empty
  | atom (a : Atom)
  | range (first last : Char) (bytes : Bool)
  | posix (kind : PosixClass) (negated : Bool)
  | bracket (negated : Bool) (s : SetTree)
  | union (s : SetTree) (items : List SetTree)
  | operation (op : SetOperator) (s t : SetTree)

inductive Tree where
  | empty
  | atom (a : Atom)
  | bracket (negated : Bool) (s : SetTree)
  | flags (change : FlagChange)
  | group (change : FlagChange) (t : Tree)
  | repetition (least : Nat) (greatest : Option Nat) (t : Tree)
  | sequence (items : List Tree)
  | alternation (branches : List Tree)

mutual

/-- How deep brackets nest, a union of several items counting as one level. -/
def SetTree.depth : SetTree → Nat
  | .bracket _ s => s.depth + 1
  | .union s items => max s.depth (setDepths items) + 1
  | .operation _ s t => max s.depth t.depth + 1
  | _ => 0

def setDepths : List SetTree → Nat
  | [] => 0
  | s :: items => max s.depth (setDepths items)

end

mutual

def Tree.depth : Tree → Nat
  | .bracket _ s => s.depth + 1
  | .group _ t => t.depth + 1
  | .repetition _ _ t => t.depth + 1
  | .sequence items => treeDepths items + 1
  | .alternation branches => treeDepths branches + 1
  | _ => 0

def treeDepths : List Tree → Nat
  | [] => 0
  | t :: items => max t.depth (treeDepths items)

end

def Tree.maxDepth : Nat := 250

end FeatureFlags.Pattern
