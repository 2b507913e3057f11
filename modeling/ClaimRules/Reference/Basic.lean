import ClaimRules.Unicode.Property
import ClaimRules.Value.Natural

/-! References to variables, and the operands that may hold them. -/

namespace ClaimRules

structure Reference where
  name : String
  index : Option String
  deriving DecidableEq, Repr

inductive Operand where
  | constant (value : Value)
  | reference (r : Reference)

namespace Reference

def text (r : Reference) : String :=
  match r.index with
  | none => "$" ++ r.name
  | some index => "$" ++ r.name ++ "[" ++ index ++ "]"

def isNameChar (c : Char) : Bool := c.isAlphanum || c == '_'

def readIndex (text : List Char) : Option String × List Char :=
  match text with
  | '[' :: rest =>
    match rest.takeWhile isNameChar, rest.dropWhile isNameChar with
    | [], _ => (none, text)
    | index, ']' :: after => (some (.ofList index), after)
    | _, _ => (none, text)
  | _ => (none, text)

def dropBrace : List Char → List Char
  | '\x7d' :: rest => rest
  | rest => rest

def readName? (text : List Char) : Option (Reference × List Char) :=
  match text with
  | [] => none
  | c :: _ =>
    if c.isAlpha then
      let (index, rest) := readIndex (text.dropWhile isNameChar)
      some (⟨.ofList (text.takeWhile isNameChar), index⟩, dropBrace rest)
    else none

/-- The reference that stands after a dollar sign, and the text after it. Neither brace needs the
other one. -/
def read? : List Char → Option (Reference × List Char)
  | '\x7b' :: rest => readName? rest
  | text => readName? text

end Reference

namespace Operand

def isReference : Operand → Bool
  | .constant _ => false
  | .reference _ => true

def isBlank (c : Char) : Bool := Unicode.whiteSpace.contains c.toNat

def trim (text : List Char) : List Char :=
  ((text.dropWhile isBlank).reverse.dropWhile isBlank).reverse

def reference? (text : String) : Option Reference :=
  match trim text.toList with
  | '$' :: rest =>
    match Reference.read? rest with
    | some (r, []) => some r
    | _ => none
  | _ => none

/-- A text that consists of a reference stands for it; every other value stands for itself. -/
def ofValue (value : Value) : Operand :=
  match value with
  | .string text =>
    match reference? text with
    | some r => .reference r
    | none => .constant value
  | _ => .constant value

def text : Operand → String
  | .constant value => value.splice
  | .reference r => r.text

end Operand
end ClaimRules
