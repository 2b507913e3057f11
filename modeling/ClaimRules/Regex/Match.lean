import ClaimRules.Regex.Program
import ClaimRules.Unicode.Property

/-! Matches of a program in a text: the leftmost one, and of those that start there the preferred one.
Places are counted in characters. -/

namespace ClaimRules.Regex

structure Span where
  start : Nat
  stop : Nat
  deriving DecidableEq, Repr

def Span.slice (s : Span) (text : List Char) : List Char := (text.take s.stop).drop s.start

/-- A match and the parts that its groups took, group zero being the whole. -/
structure Match where
  span : Span
  groups : List (Option Span)
  deriving DecidableEq, Repr

def isWord (unicode : Bool) (c : Option Char) : Bool :=
  match c with
  | none => false
  | some c =>
    if c.toNat < 128 then c.isAlphanum || c == '_'
    else unicode && Unicode.word.contains c.toNat

def Anchor.holds (before after : Option Char) : Anchor → Bool
  | .textStart => before.isNone
  | .textEnd => after.isNone
  | .lineStart => before.isNone || before == some '\n'
  | .lineEnd => after.isNone || after == some '\n'
  | .crlfLineStart => before.isNone || before == some '\n' || (before == some '\r' && after != some '\n')
  | .crlfLineEnd => after.isNone || after == some '\r' || (after == some '\n' && before != some '\r')
  | .wordBoundary u => isWord u before != isWord u after
  | .notWordBoundary u => isWord u before == isWord u after
  | .wordStart u => !isWord u before && isWord u after
  | .wordEnd u => isWord u before && !isWord u after
  | .wordStartHalf u => !isWord u before
  | .wordEndHalf u => !isWord u after

/-- A program at work: the next instruction, the place in the text, and the places stored so far. -/
structure Thread where
  pc : Nat
  place : Nat
  slots : List (Option Nat)
  deriving DecidableEq, Repr

def charBefore (text : Array Char) (place : Nat) : Option Char :=
  if place = 0 then none else text[place - 1]?

def Thread.next (text : Array Char) (t : Thread) : Instruction → List Thread
  | .accept => []
  | .take set =>
    match text[t.place]? with
    | some c => if set.contains c.toNat then [⟨t.pc + 1, t.place + 1, t.slots⟩] else []
    | none => []
  | .check a =>
    if a.holds (charBefore text t.place) text[t.place]? then [{ t with pc := t.pc + 1 }] else []
  | .mark slot => [⟨t.pc + 1, t.place, t.slots.set slot (some t.place)⟩]
  | .jump target => [{ t with pc := target }]
  | .branch first second => [{ t with pc := first }, { t with pc := second }]

/-- Follows the first thread of the stack, and the others when it fails. A pair of instruction and
place that was met before leads nowhere new. Each unit of fuel takes one thread from the stack. -/
def explore (program : Array Instruction) (text : Array Char) :
    Nat → Array Bool → List Thread → Option (List (Option Nat)) × Array Bool
  | 0, seen, _ => (none, seen)
  | _, seen, [] => (none, seen)
  | fuel + 1, seen, t :: stack =>
    let key := t.pc * (text.size + 1) + t.place
    if seen.getD key true then explore program text fuel seen stack
    else
      let seen := seen.setIfInBounds key true
      match program[t.pc]? with
      | none => explore program text fuel seen stack
      | some .accept => (some t.slots, seen)
      | some i => explore program text fuel seen (t.next text i ++ stack)

def exploreFrom (program : Array Instruction) (text : Array Char) (slots : Nat) :
    Nat → Array Bool → Nat → Option (List (Option Nat))
  | 0, _, _ => none
  | count + 1, seen, start =>
    match explore program text (2 * seen.size + 1) seen [⟨0, start, List.replicate slots none⟩] with
    | (some slots, _) => some slots
    | (none, seen) => exploreFrom program text slots count seen (start + 1)

def spanOfSlots (slots : List (Option Nat)) (group : Nat) : Option Span :=
  match slots[2 * group]?.join, slots[2 * group + 1]?.join with
  | some start, some stop => some ⟨start, stop⟩
  | _, _ => none

end ClaimRules.Regex
