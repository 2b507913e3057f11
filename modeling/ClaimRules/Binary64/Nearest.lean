import ClaimRules.Binary64.Basic

/-! Arithmetic on numbers that are neither negative nor infinite. The result is the number nearest to the
exact one; of two equally near ones, the one whose last bit is zero. -/

namespace ClaimRules.Binary64

def roundHalfEven (num den : Nat) : Nat :=
  let low := num / den
  let rest := num % den
  if 2 * rest < den then low
  else if den < 2 * rest then low + 1
  else low + low % 2

/-- The exponent of the grid on which a positive quotient has fifty-three bits, or that of the
smallest numbers. -/
def gridExponent (num den : Nat) : Int :=
  let guess : Int := (Nat.log2 num : Int) - Nat.log2 den - 52
  let fits : Bool :=
    if 0 ≤ guess then den * unit * Nat.pow 2 guess.toNat ≤ num
    else den * unit ≤ num * Nat.pow 2 (-guess).toNat
  max (-1074) (if fits then guess else guess - 1)

def nearestMagnitude (num den : Nat) : Nat :=
  let q := gridExponent num den
  let m :=
    if 0 ≤ q then roundHalfEven num (den * Nat.pow 2 q.toNat)
    else roundHalfEven (num * Nat.pow 2 (-q).toNat) den
  (q + 1074).toNat * unit + m

/-- The number nearest to `num / den * 2 ^ q`, infinite where that is beyond the finite ones. -/
def nearest (num den : Nat) (q : Int) : Binary64 :=
  if num = 0 then ofMagnitude false 0
  else if 0 ≤ q then ofMagnitude false (min infinite (nearestMagnitude (num * Nat.pow 2 q.toNat) den))
  else ofMagnitude false (min infinite (nearestMagnitude num (den * Nat.pow 2 (-q).toNat)))

def ofNat (n : Nat) : Binary64 := nearest n 1 0

def mul (x y : Binary64) : Binary64 :=
  nearest (x.significand * y.significand) 1 (x.exponent + y.exponent)

def div (x y : Binary64) : Binary64 :=
  nearest x.significand y.significand (x.exponent - y.exponent)

def withSign (negative : Bool) (x : Binary64) : Binary64 := ofMagnitude negative x.magnitude

end ClaimRules.Binary64
