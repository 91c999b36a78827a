import FeatureFlags.Text.CharSet

namespace FeatureFlags.Pattern

open Text

structure Look where
  holds : (before behind : Option Char) → Bool

inductive Regex where
  | empty
  | char (set : CharSet)
  | look (l : Look)
  | sequence (r s : Regex)
  | either (r s : Regex)
  | repetition (least : Nat) (greatest : Option Nat) (r : Regex)

/-- A regular expression on one text: the positions at which a step may start, or a condition holds.
-/
inductive Automaton where
  | empty
  | step (starts : Nat)
  | gate (positions : Nat)
  | sequence (r s : Automaton)
  | either (r s : Automaton)
  | repetition (least : Nat) (greatest : Option Nat) (r : Automaton)

namespace Regex

/-- The numbers of the bits that are `true`. -/
def positions : List Bool → Nat
  | [] => 0
  | b :: bits => 2 * positions bits + if b then 1 else 0

def lookBits (l : Look) (before : Option Char) : List Char → List Bool
  | [] => [l.holds before none]
  | c :: rest => l.holds before (some c) :: lookBits l (some c) rest

def on (text : List Char) : Regex → Automaton
  | empty => .empty
  | char set => .step (positions (text.map fun c => set.contains c.toNat))
  | look l => .gate (positions (lookBits l none text))
  | sequence r s => .sequence (r.on text) (s.on text)
  | either r s => .either (r.on text) (s.on text)
  | repetition least greatest r => .repetition least greatest (r.on text)

end Regex

namespace Automaton

/-- `f` again and again, `count` times or until nothing changes. -/
def iterate (f : Nat → Nat) : (count : Nat) → Nat → Nat
  | 0, at_ => at_
  | count + 1, at_ => if f at_ = at_ then at_ else iterate f count (f at_)

/-- The ends of the matches that start at some positions of a text with `length` characters. A match
that comes back to its start adds nothing, so `length` rounds are enough for any number of them. -/
def ends (length : Nat) : Automaton → (starts : Nat) → Nat
  | empty, starts => starts
  | step mask, starts => (starts &&& mask) <<< 1
  | gate mask, starts => starts &&& mask
  | sequence r s, starts => s.ends length (r.ends length starts)
  | either r s, starts => r.ends length starts ||| s.ends length starts
  | repetition least greatest r, starts =>
    let optional := match greatest with
      | some most => most - least
      | none => length + 1
    iterate (fun at_ => at_ ||| r.ends length at_) optional (iterate (r.ends length) least starts)

end Automaton

def Regex.isIn (r : Regex) (text : List Char) : Bool :=
  (r.on text).ends text.length (.pow 2 (text.length + 1) - 1) != 0

/-- The number of states of an automaton, about: what a repetition repeats counts once for each
time. -/
def Regex.states : Regex → Nat
  | empty => 1
  | char set => set.size
  | look _ => 1
  | sequence r s => r.states + s.states
  | either r s => r.states + s.states + 1
  | repetition least greatest r => max 1 (greatest.getD (least + 1)) * r.states

def Regex.bytes (r : Regex) : Nat := 32 * r.states

end FeatureFlags.Pattern
