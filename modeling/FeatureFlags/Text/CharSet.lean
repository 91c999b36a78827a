import FeatureFlags.Text.CaseTable

namespace FeatureFlags.Text

inductive CharSet where
  | runs (table : List CodeRun)
  | union (s t : CharSet)
  | inter (s t : CharSet)
  | compl (s : CharSet)
  /-- All that folds together with a member. -/
  | folded (s : CharSet)

namespace CharSet

def foldOrbit (n : Nat) : List Nat :=
  let least := CodeRun.apply CaseTable.folding n
  least :: CaseTable.folding.filterMap (·.preimage? least)

def contains : CharSet → Nat → Bool
  | runs table, n => table.any (·.contains n)
  | union s t, n => s.contains n || t.contains n
  | inter s t, n => s.contains n && t.contains n
  | compl s, n => !s.contains n
  | folded s, n => (foldOrbit n).any s.contains

def empty : CharSet := runs []

def ofTable (text : String) : CharSet := runs (CodeRun.parseTable text)

def range (first last : Nat) : CharSet := runs [⟨first, last, 1, first⟩]

def single (c : Char) : CharSet := range c.toNat c.toNat

def unions (sets : List CharSet) : CharSet := sets.foldr union empty

def diff (s t : CharSet) : CharSet := s.inter t.compl

def symmDiff (s t : CharSet) : CharSet := (s.diff t).union (t.diff s)

def size : CharSet → Nat
  | runs table => max 1 table.length
  | union s t => s.size + t.size
  | inter s t => s.size + t.size
  | compl s => s.size
  | folded s => s.size

end CharSet

end FeatureFlags.Text
