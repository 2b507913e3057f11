import ClaimRules.Unicode.CodeSet

/-! Regular expressions in normal form: flags are resolved, classes are sets, and trivial parts are
simplified away. -/

namespace ClaimRules.Regex

inductive Anchor where
  | textStart
  | textEnd
  | lineStart
  | lineEnd
  | crlfLineStart
  | crlfLineEnd
  | wordBoundary (unicode : Bool)
  | notWordBoundary (unicode : Bool)
  | wordStart (unicode : Bool)
  | wordEnd (unicode : Bool)
  | wordStartHalf (unicode : Bool)
  | wordEndHalf (unicode : Bool)
  deriving DecidableEq, Repr

inductive Pattern where
  | empty
  | literal (text : List Char)
  | oneOf (set : Unicode.CodeSet)
  | anchor (a : Anchor)
  | repeated (least : Nat) (most : Option Nat) (greedy : Bool) (body : Pattern)
  | group (index : Nat) (name : Option String) (body : Pattern)
  | sequence (parts : List Pattern)
  | choice (branches : List Pattern)

namespace Pattern

mutual

def same : Pattern → Pattern → Bool
  | .empty, .empty => true
  | .literal a, .literal b => a == b
  | .oneOf a, .oneOf b => a == b
  | .anchor a, .anchor b => a == b
  | .repeated l m g a, .repeated l' m' g' b => l == l' && m == m' && g == g' && same a b
  | .group i n a, .group i' n' b => i == i' && n == n' && same a b
  | .sequence a, .sequence b => sameParts a b
  | .choice a, .choice b => sameParts a b
  | _, _ => false

def sameParts : List Pattern → List Pattern → Bool
  | [], [] => true
  | a :: as, b :: bs => same a b && sameParts as bs
  | _, _ => false

end

mutual

def leastLength : Pattern → Option Nat
  | .empty => some 0
  | .literal text => some text.length
  | .oneOf set => if set.isEmpty then none else some 1
  | .anchor _ => some 0
  | .repeated least _ _ body => (leastLength body).map (least * ·)
  | .group _ _ body => leastLength body
  | .sequence parts => leastLengthOfAll parts
  | .choice branches => leastLengthOfAny branches

def leastLengthOfAll : List Pattern → Option Nat
  | [] => some 0
  | part :: rest => do return (← leastLength part) + (← leastLengthOfAll rest)

def leastLengthOfAny : List Pattern → Option Nat
  | [] => none
  | [branch] => leastLength branch
  | branch :: rest => do return min (← leastLength branch) (← leastLengthOfAny rest)

end

mutual

def isVoid : Pattern → Bool
  | .empty => true
  | .literal text => text.isEmpty
  | .oneOf _ => false
  | .anchor _ => true
  | .repeated _ most _ body => isVoid body && most.isSome
  | .group _ _ body => isVoid body
  | .sequence parts => areVoid parts
  | .choice branches => areVoid branches

def areVoid : List Pattern → Bool
  | [] => true
  | part :: rest => isVoid part && areVoid rest

end

def ofSet : Unicode.CodeSet → Pattern
  | [r] => if r.first = r.last then .literal [Char.ofNat r.first] else .oneOf [r]
  | set => .oneOf set

/-- Repetition. What matches nothing but the empty text is repeated at most once, no repetition is the
empty pattern, and one repetition is the body itself. -/
def repeating (least : Nat) (most : Option Nat) (greedy : Bool) (body : Pattern) : Pattern :=
  let (least, most) :=
    if isVoid body then (min least 1, some (min (most.getD 1) 1)) else (least, most)
  if least = 0 ∧ most = some 0 then .empty
  else if least = 1 ∧ most = some 1 then body
  else .repeated least most greedy body

def flattenSequence : Pattern → List Pattern
  | .sequence parts => parts
  | p => [p]

def prepend : Pattern → List Pattern → List Pattern
  | .empty, rest => rest
  | .literal a, .literal b :: rest => .literal (a ++ b) :: rest
  | p, rest => p :: rest

def sequencing (parts : List Pattern) : Pattern :=
  match (parts.flatMap flattenSequence).foldr prepend [] with
  | [] => .empty
  | [part] => part
  | parts => .sequence parts

def flattenChoice : Pattern → List Pattern
  | .choice branches => branches
  | p => [p]

def char? : Pattern → Option Char
  | .literal [c] => some c
  | _ => none

def set? : Pattern → Option Unicode.CodeSet
  | .oneOf set => some set
  | _ => none

def merged? (branches : List Pattern) : Option Unicode.CodeSet :=
  match branches.mapM char? with
  | some chars => some (.ofRanges (chars.map fun c => ⟨c.toNat, c.toNat⟩))
  | none => (branches.mapM set?).map Unicode.CodeSet.unions

def sharedLength : List Pattern → List Pattern → Nat
  | a :: as, b :: bs => if same a b then sharedLength as bs + 1 else 0
  | _, _ => 0

def sequenceParts? : Pattern → Option (List Pattern)
  | .sequence parts => some parts
  | _ => none

def commonLength : List (List Pattern) → Nat
  | [] => 0
  | [parts] => parts.length
  | parts :: rest => rest.foldl (fun n other => min n (sharedLength parts other)) parts.length

def rests (n : Nat) (sequences : List (List Pattern)) : List Pattern :=
  sequences.map fun parts => sequencing (parts.drop n)

/-- Choice between branches, where the shared first parts are put in front at most so often. -/
def choosingUpTo : Nat → List Pattern → Pattern
  | fuel, branches =>
    match branches.flatMap flattenChoice with
    | [] => .oneOf []
    | [branch] => branch
    | branches =>
      match merged? branches with
      | some set => ofSet set
      | none =>
        match fuel, branches.mapM sequenceParts? with
        | fuel + 1, some sequences =>
          match commonLength sequences with
          | 0 => .choice branches
          | n =>
            sequencing ((sequences.headD []).take n ++ [choosingUpTo fuel (rests n sequences)])
        | _, _ => .choice branches

/-- Choice between branches: characters or sets alone make one set, and the parts that all branches
begin with are put in front of the choice. -/
def choosing (branches : List Pattern) : Pattern := choosingUpTo branches.length branches

end Pattern
end ClaimRules.Regex
