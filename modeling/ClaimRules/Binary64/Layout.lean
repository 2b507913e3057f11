import ClaimRules.Binary64.Shortest

/-! How the digits of a finite number are laid out in text. -/

namespace ClaimRules.Binary64

/-- Numbers whose first digit has an exponent from `least` to `greatest` are written positionally, with
at least one digit after the point; the others have one digit before the point and an exponent. -/
structure Layout where
  least : Int
  greatest : Int
  mark : String
  plusSign : Bool
  alwaysPoint : Bool
  tie : Tie

/-- Digits around the point; `point` counts those before it and may be negative. -/
def positional (digits : List Char) (point : Int) : List Char :=
  if point ≤ 0 then
    ['0', '.'] ++ List.replicate (-point).toNat '0' ++ digits
  else if point < digits.length then
    digits.take point.toNat ++ ['.'] ++ digits.drop point.toNat
  else
    digits ++ List.replicate (point.toNat - digits.length) '0' ++ ['.', '0']

def scientific (layout : Layout) (digits : List Char) (exponent : Int) : List Char :=
  let fraction :=
    match digits.tail with
    | [] => if layout.alwaysPoint then ['.', '0'] else []
    | rest => '.' :: rest
  let sign := if exponent < 0 then ['-'] else if layout.plusSign then ['+'] else []
  digits.take 1 ++ fraction ++ layout.mark.toList ++ sign ++ Nat.toDigits 10 exponent.natAbs

def write (layout : Layout) (x : Binary64) : List Char :=
  let sign := if x.isNegative then ['-'] else []
  if x.magnitude = 0 then sign ++ ['0', '.', '0']
  else
    let d := shortest layout.tie x
    let digits := Nat.toDigits 10 d.digits
    let first := d.exponent + digits.length - 1
    if layout.least ≤ first ∧ first ≤ layout.greatest then sign ++ positional digits (first + 1)
    else sign ++ scientific layout digits first

end ClaimRules.Binary64
