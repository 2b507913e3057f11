import ClaimRules.Regex.Pattern

/-! Programs that match patterns. An instruction either goes on to the one after it or names the ones
that may follow, the preferred one first. -/

namespace ClaimRules.Regex

inductive Instruction where
  | accept
  | take (set : Unicode.CodeSet)
  | check (a : Anchor)
  | mark (slot : Nat)
  | jump (next : Nat)
  | branch (first second : Nat)
  deriving DecidableEq, Repr

abbrev Code := List Instruction

namespace Code

def gate (greedy : Bool) (inside outside : Nat) : Instruction :=
  if greedy then .branch inside outside else .branch outside inside

def copies (body : Nat → Code) : Nat → Nat → Code
  | 0, _ => []
  | n + 1, start =>
    let first := body start
    first ++ copies body n (start + first.length)

def oneOrMore (body : Nat → Code) (greedy : Bool) (start : Nat) : Code :=
  let once := body start
  once ++ [gate greedy start (start + once.length + 1)]

/-- The body any number of times, if every match of it takes a character. -/
def anyNumber (body : Nat → Code) (greedy : Bool) (start : Nat) : Code :=
  let once := body (start + 1)
  gate greedy (start + 1) (start + once.length + 2) :: once ++ [.jump start]

/-- The body any number of times, if it may match without a character. -/
def optionalLoop (body : Nat → Code) (greedy : Bool) (start : Nat) : Code :=
  let loop := oneOrMore body greedy (start + 1)
  gate greedy (start + 1) (start + loop.length + 1) :: loop

def atMost (body : Nat → Code) (greedy : Bool) (outside : Nat) : Nat → Nat → Code
  | 0, _ => []
  | n + 1, start =>
    let once := body (start + 1)
    gate greedy (start + 1) outside :: once ++
      atMost body greedy outside n (start + once.length + 1)

def repetition (body : Nat → Code) (mayBeEmpty greedy : Bool) (least : Nat) (most : Option Nat)
    (start : Nat) : Code :=
  match most with
  | some most =>
    let required := copies body least start
    let next := start + required.length
    let size := (body 0).length + 1
    required ++ atMost body greedy (next + (most - least) * size) (most - least) next
  | none =>
    match least with
    | 0 => if mayBeEmpty then optionalLoop body greedy start else anyNumber body greedy start
    | n + 1 =>
      let required := copies body n start
      required ++ oneOrMore body greedy (start + required.length)

end Code

namespace Pattern

mutual

/-- The code of a pattern at an address. Where it ends, whatever follows goes on. -/
def code : Pattern → Nat → Code
  | .empty => fun _ => []
  | .literal text => fun _ => text.map fun c => .take (.single c.toNat)
  | .oneOf set => fun _ => [.take set]
  | .anchor a => fun _ => [.check a]
  | .repeated least most greedy body => fun start =>
    let mayBeEmpty := match leastLength body with
      | some (_ + 1) => false
      | _ => true
    Code.repetition (code body) mayBeEmpty greedy least most start
  | .group index _ body => fun start =>
    .mark (2 * index) :: code body (start + 1) ++ [.mark (2 * index + 1)]
  | .sequence parts => codeOfAll parts
  | .choice branches => codeOfAny branches

def codeOfAll : List Pattern → Nat → Code
  | [] => fun _ => []
  | part :: rest => fun start =>
    let first := code part start
    first ++ codeOfAll rest (start + first.length)

def codeOfAny : List Pattern → Nat → Code
  | [] => fun _ => [.take []]
  | [branch] => code branch
  | branch :: rest => fun start =>
    let first := code branch (start + 1)
    let others := codeOfAny rest (start + first.length + 2)
    .branch (start + 1) (start + first.length + 2) :: first ++
      .jump (start + first.length + others.length + 2) :: others

end

mutual

def groups : Pattern → List (Nat × Option String)
  | .repeated _ _ _ body => groups body
  | .group index name body => (index, name) :: groups body
  | .sequence parts => groupsOfAll parts
  | .choice branches => groupsOfAll branches
  | _ => []

def groupsOfAll : List Pattern → List (Nat × Option String)
  | [] => []
  | part :: rest => groups part ++ groupsOfAll rest

end

def program (p : Pattern) : Code := .mark 0 :: code p 1 ++ [.mark 1, .accept]

def groupNames (p : Pattern) : List (Option String) :=
  let found := groups p
  let count := found.foldl (fun n g => max n (g.1 + 1)) 1
  (List.range count).map fun i => (found.lookup i).getD none

end Pattern
end ClaimRules.Regex
