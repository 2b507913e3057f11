import ClaimRules.Binary64.Nearest

/-! Decimals as numbers: a whole number is rounded first, and then multiplied or divided by powers of ten,
rounded at each step. The result may be off by a unit in the last place. -/

namespace ClaimRules.Binary64

def greatestPower : Nat := 308

def powerOfTen (exponent : Nat) : Binary64 := ofNat (Nat.pow 10 exponent)

def divideOut (x : Binary64) : Nat → Binary64
  | 0 => x
  | steps + 1 =>
    if x.magnitude = 0 then x else divideOut (x.div (powerOfTen greatestPower)) steps

def scaleUp (x : Binary64) (exponent : Nat) : Binary64 :=
  if exponent ≤ greatestPower then x.mul (powerOfTen exponent)
  else if x.magnitude = 0 then x
  else ofMagnitude false infinite

def scaleDown (x : Binary64) (exponent : Nat) : Binary64 :=
  let steps := (exponent - 1) / greatestPower
  (divideOut x steps).div (powerOfTen (exponent - steps * greatestPower))

def ofDecimal (digits : Nat) (exponent : Int) : Binary64 :=
  if 0 ≤ exponent then (ofNat digits).scaleUp exponent.toNat
  else (ofNat digits).scaleDown (-exponent).toNat

/-- One divided by a power that is itself rounded is not the nearest number to the quotient. -/
example : ofDecimal 1 (-30) = ⟨0x39b4484bfeebc29f⟩ ∧ nearest 1 (10 ^ 30) 0 = ⟨0x39b4484bfeebc2a0⟩ := by
  decide +kernel

end ClaimRules.Binary64
