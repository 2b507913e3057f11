import ClaimRules.Digits
import ClaimRules.Regex.Basic

/-! Replacement of matches. In a replacement text `$1` and `$name` stand for groups, as do the same
names in braces, and `$$` stands for a dollar sign. -/

namespace ClaimRules.Regex

inductive Insert where
  | text (c : Char)
  | numbered (group : Nat)
  | named (group : String)
  deriving DecidableEq, Repr

def isGroupChar (c : Char) : Bool := c.isAlphanum || c == '_'

/-- A group by its number, if the name is one that fits a word, or else by its name. -/
def Insert.ofName (name : List Char) : Insert :=
  let digits : List Char :=
    match name with
    | '+' :: rest => rest
    | _ => name
  if isDigits digits && digitsValue digits < UInt64.size then .numbered (digitsValue digits)
  else .named (.ofList name)

/-- What stands after a dollar sign, and the text after it. A dollar sign that names no group stands
for itself. -/
def readInsert (text : List Char) : Insert × List Char :=
  match text with
  | '$' :: rest => (.text '$', rest)
  | '\x7b' :: rest =>
    match rest.dropWhile (· != '\x7d') with
    | _ :: after => (.ofName (rest.takeWhile (· != '\x7d')), after)
    | [] => (.text '$', text)
  | _ =>
    match text.takeWhile isGroupChar with
    | [] => (.text '$', text)
    | name => (.ofName name, text.dropWhile isGroupChar)

theorem length_readInsert_le (text : List Char) : (readInsert text).2.length ≤ text.length := by
  unfold readInsert
  split
  · simp
  · next rest =>
    have h : (rest.dropWhile (· != '\x7d')).length ≤ rest.length :=
      (List.dropWhile_suffix _).length_le
    split
    · next heq => simp_all; omega
    · simp
  · split
    · simp
    · exact (List.dropWhile_suffix isGroupChar).length_le

def inserts : List Char → List Insert
  | [] => []
  | c :: rest =>
    if c = '$' then (readInsert rest).1 :: inserts (readInsert rest).2
    else .text c :: inserts rest
  termination_by text => text.length
  decreasing_by
    · have := length_readInsert_le rest
      simp only [List.length_cons]
      omega
    · simp

def groupText (text : List Char) (m : Match) (group : Nat) : List Char :=
  match m.groups[group]?.join with
  | some span => span.slice text
  | none => []

def Insert.expand (re : Regex) (text : List Char) (m : Match) : Insert → List Char
  | .text c => [c]
  | .numbered group => groupText text m group
  | .named name =>
    match re.groupNames.findIdx? (· == some name) with
    | some group => groupText text m group
    | none => []

def expansion (re : Regex) (replacement text : List Char) (m : Match) : List Char :=
  (inserts replacement).flatMap (Insert.expand re text m)

def replaceFrom (replace : Match → List Char) (text : List Char) : Nat → List Match → List Char
  | place, [] => text.drop place
  | place, m :: rest =>
    Span.slice ⟨place, m.span.start⟩ text ++ replace m ++ replaceFrom replace text m.span.stop rest

def replaceAll (re : Regex) (text replacement : List Char) : List Char :=
  replaceFrom (re.expansion replacement text) text 0 (re.matchesIn text)

end ClaimRules.Regex
