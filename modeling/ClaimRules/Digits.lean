/-! Whole numbers spelled in decimal digits. -/

namespace ClaimRules

def digitsValue (digits : List Char) : Nat :=
  digits.foldl (fun n c => n * 10 + (c.toNat - '0'.toNat)) 0

def isDigits (text : List Char) : Bool := !text.isEmpty && text.all Char.isDigit

def signedLimit : Nat := 0x8000000000000000

def integerOf? (text : String) : Option Int :=
  let (negative, digits) : Bool × List Char :=
    match text.toList with
    | '-' :: rest => (true, rest)
    | '+' :: rest => (false, rest)
    | rest => (false, rest)
  let n := digitsValue digits
  if !isDigits digits then none
  else if negative then if n ≤ signedLimit then some (-n) else none
  else if n < signedLimit then some n else none

end ClaimRules
