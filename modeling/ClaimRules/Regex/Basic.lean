import ClaimRules.Regex.Match
import ClaimRules.Regex.Meaning
import ClaimRules.Regex.Reader

/-! Compiled regular expressions, and the matches, pieces and groups that they find in texts. -/

namespace ClaimRules

structure Regex where
  groupNames : List (Option String)
  program : Array Regex.Instruction

namespace Regex

/-- There is no limit on the size of a program, which in practice would refuse patterns that unfold to
several megabytes. -/
def compile (pattern : String) : Except Fault Regex := do
  let p ← (← Expr.parse pattern).pattern
  return ⟨p.groupNames, p.program.toArray⟩

def matchFrom? (re : Regex) (text : Array Char) (place : Nat) : Option Match := do
  let seen := Array.replicate (re.program.size * (text.size + 1)) false
  let slots ← exploreFrom re.program text (2 * re.groupNames.length) (text.size + 1 - place) seen place
  let span ← spanOfSlots slots 0
  return ⟨span, (List.range re.groupNames.length).map (spanOfSlots slots)⟩

/-- The matches after the last one, which ended at the given place. An empty match there is passed
over. -/
def matchesAfter (re : Regex) (text : Array Char) : Nat → Option Nat → List Match
  | 0, _ => []
  | fuel + 1, last =>
    let place := last.getD 0
    let found :=
      match re.matchFrom? text place with
      | none => none
      | some m =>
        if m.span.start = m.span.stop ∧ some m.span.stop = last then re.matchFrom? text (place + 1)
        else some m
    match found with
    | none => []
    | some m => m :: matchesAfter re text fuel (some m.span.stop)

def matchesIn (re : Regex) (text : List Char) : List Match :=
  re.matchesAfter text.toArray (text.length + 2) none

def firstMatch? (re : Regex) (text : List Char) : Option Match := re.matchFrom? text.toArray 0

def piecesFrom (text : List Char) : Nat → List Span → List (List Char)
  | place, [] => [text.drop place]
  | place, s :: rest => Span.slice ⟨place, s.start⟩ text :: piecesFrom text s.stop rest

def pieces (re : Regex) (text : List Char) : List (List Char) :=
  piecesFrom text 0 ((re.matchesIn text).map Match.span)

def namedGroups (re : Regex) (m : Match) : List (String × Option Span) :=
  (re.groupNames.zip m.groups).filterMap fun p => p.1.map fun name => (name, p.2)

end Regex
end ClaimRules
