import ClaimRules.Binary64.Layout
import ClaimRules.Json.Basic

/-! JSON text on one line and on indented lines. -/

namespace ClaimRules.Json

/-- Reals are positional for exponents from -5 to 15, with a sign on every exponent otherwise; a tie
goes to the even digit. -/
def realLayout : Binary64.Layout := ⟨-5, 15, "e", true, false, .even⟩

def hexDigit (n : Nat) : Char := (Nat.toDigits 16 n).headD '0'

def escapeChar (c : Char) : List Char :=
  if c = '"' then ['\\', '"']
  else if c = '\\' then ['\\', '\\']
  else if c = '\n' then ['\\', 'n']
  else if c = '\r' then ['\\', 'r']
  else if c = '\t' then ['\\', 't']
  else if c.toNat = 8 then ['\\', 'b']
  else if c.toNat = 12 then ['\\', 'f']
  else if c.toNat < 32 then ['\\', 'u', '0', '0', hexDigit (c.toNat / 16), hexDigit (c.toNat % 16)]
  else [c]

def quote (text : String) : List Char := '"' :: text.toList.flatMap escapeChar ++ ['"']

def writeInt (n : Int) : List Char :=
  if n < 0 then '-' :: Nat.toDigits 10 n.natAbs else Nat.toDigits 10 n.natAbs

def writeScalar : Json → List Char
  | .boolean b => if b then ['t', 'r', 'u', 'e'] else ['f', 'a', 'l', 's', 'e']
  | .integer n => writeInt n.toInt
  | .large n _ => Nat.toDigits 10 n.toNat
  | .real x _ => x.write realLayout
  | .string text => quote text
  | _ => ['n', 'u', 'l', 'l']

mutual

def write : Json → List Char
  | .array items => '[' :: writeItems items ++ [']']
  | .object entries => '\x7b' :: writeEntries entries ++ ['\x7d']
  | scalar => writeScalar scalar

def writeItems : List Json → List Char
  | [] => []
  | [item] => write item
  | item :: rest => write item ++ ',' :: writeItems rest

def writeEntries : List (String × Json) → List Char
  | [] => []
  | [(key, value)] => quote key ++ ':' :: write value
  | (key, value) :: rest => quote key ++ ':' :: write value ++ ',' :: writeEntries rest

end

def newLine (level : Nat) : List Char := '\n' :: List.replicate (2 * level) ' '

mutual

def indent (level : Nat) : Json → List Char
  | .array [] => ['[', ']']
  | .array items => '[' :: indentItems (level + 1) items ++ newLine level ++ [']']
  | .object [] => ['\x7b', '\x7d']
  | .object entries => '\x7b' :: indentEntries (level + 1) entries ++ newLine level ++ ['\x7d']
  | scalar => writeScalar scalar

def indentItems (level : Nat) : List Json → List Char
  | [] => []
  | [item] => newLine level ++ indent level item
  | item :: rest => newLine level ++ indent level item ++ ',' :: indentItems level rest

def indentEntries (level : Nat) : List (String × Json) → List Char
  | [] => []
  | [(key, value)] => newLine level ++ quote key ++ ':' :: ' ' :: indent level value
  | (key, value) :: rest =>
    newLine level ++ quote key ++ ':' :: ' ' :: indent level value ++
      ',' :: indentEntries level rest

end

def compact (doc : Json) : String := .ofList (write doc)

def pretty (doc : Json) : String := .ofList (indent 0 doc)

end ClaimRules.Json
