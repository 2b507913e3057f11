/-! Sets of code points, held as ascending ranges that neither touch nor overlap. -/

namespace ClaimRules.Unicode

structure CodeRange where
  first : Nat
  last : Nat
  deriving DecidableEq, Repr

abbrev CodeSet := List CodeRange

namespace CodeSet

def lastCode : Nat := 0x10ffff

def full : CodeSet := [⟨0, lastCode⟩]

def single (code : Nat) : CodeSet := [⟨code, code⟩]

def contains : CodeSet → Nat → Bool
  | [], _ => false
  | r :: rest, code =>
    if code < r.first then false
    else if code ≤ r.last then true
    else contains rest code

def insert (r : CodeRange) : CodeSet → CodeSet
  | [] => [r]
  | s :: rest =>
    if r.last + 1 < s.first then r :: s :: rest
    else if s.last + 1 < r.first then s :: insert r rest
    else insert ⟨min r.first s.first, max r.last s.last⟩ rest

def ofRanges (ranges : List CodeRange) : CodeSet := ranges.foldr insert []

def union (a b : CodeSet) : CodeSet := a.foldr insert b

def unions (sets : List CodeSet) : CodeSet := sets.foldr union []

def gaps (top : Nat) : Nat → CodeSet → CodeSet
  | start, [] => if start ≤ top then [⟨start, top⟩] else []
  | start, r :: rest =>
    if start < r.first then ⟨start, r.first - 1⟩ :: gaps top (r.last + 1) rest
    else gaps top (r.last + 1) rest

def complUpTo (top : Nat) (a : CodeSet) : CodeSet := gaps top 0 a

def compl (a : CodeSet) : CodeSet := complUpTo lastCode a

def inter (a b : CodeSet) : CodeSet := compl (union (compl a) (compl b))

def diff (a b : CodeSet) : CodeSet := inter a (compl b)

def symmDiff (a b : CodeSet) : CodeSet := diff (union a b) (inter a b)

def isAscii (a : CodeSet) : Bool := List.all a fun r => r.last < 0x80

structure Reading where
  ranges : List CodeRange
  first : Option Nat
  value : Nat

def hexValue (c : Char) : Nat :=
  if c.isDigit then c.toNat - '0'.toNat else c.toNat - 'a'.toNat + 10

def Reading.close (r : Reading) : List CodeRange :=
  ⟨r.first.getD r.value, r.value⟩ :: r.ranges

def Reading.step (r : Reading) (c : Char) : Reading :=
  if c = ' ' then ⟨r.close, none, 0⟩
  else if c = '-' then ⟨r.ranges, some r.value, 0⟩
  else ⟨r.ranges, r.first, r.value * 16 + hexValue c⟩

/-- Reads ascending ranges in lower-case hexadecimal, separated by blanks, such as `41-5a 5f`. -/
def ofText (text : String) : CodeSet :=
  (text.toList.foldl Reading.step ⟨[], none, 0⟩).close.reverse

def ofLines (lines : List String) : CodeSet := lines.flatMap ofText

end CodeSet
end ClaimRules.Unicode
