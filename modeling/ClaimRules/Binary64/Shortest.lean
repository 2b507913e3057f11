import ClaimRules.Binary64.Basic

/-! The fewest decimal digits that are read back as the same number, and of those the nearest. -/

namespace ClaimRules.Binary64

structure Quotient where
  num : Nat
  den : Nat

namespace Quotient

def scaled (n base : Nat) (e : Int) : Quotient :=
  if 0 ≤ e then ⟨n * Nat.pow base e.toNat, 1⟩ else ⟨n, Nat.pow base (-e).toNat⟩

def lt (a b : Quotient) : Bool := a.num * b.den < b.num * a.den

def le (a b : Quotient) : Bool := a.num * b.den ≤ b.num * a.den

end Quotient

def firstExponent (v : Quotient) : Int :=
  if v.den ≤ v.num then (Nat.toDigits 10 (v.num / v.den)).length - 1
  else
    let width := (Nat.toDigits 10 (v.den / v.num)).length
    if v.den ≤ v.num * Nat.pow 10 (width - 1) then -(width - 1 : Int) else -width

/-- The numbers that are read as `x`: from the middle below to the middle above, in quarters of the
last place, the ends included when the last bit is zero. -/
structure Interval where
  low : Quotient
  high : Quotient
  closed : Bool

def interval (x : Binary64) : Interval :=
  let m := x.significand
  let q := x.exponent - 2
  let below := if m = unit ∧ -1074 < x.exponent then 4 * m - 1 else 4 * m - 2
  ⟨.scaled below 2 q, .scaled (4 * m + 2) 2 q, m % 2 == 0⟩

def Interval.contains (i : Interval) (v : Quotient) : Bool :=
  if i.closed then i.low.le v && v.le i.high else i.low.lt v && v.lt i.high

inductive Tie where
  | up
  | even
  deriving DecidableEq, Repr

structure Decimal where
  digits : Nat
  exponent : Int
  deriving DecidableEq, Repr

/-- The neighbour of `x` on the grid of `10 ^ k` that is read as `x`, if there is one. -/
def onGrid? (tie : Tie) (x : Binary64) (k : Int) : Option Decimal :=
  let v := Quotient.scaled x.significand 2 x.exponent
  let p := if 0 ≤ k then v.num else v.num * Nat.pow 10 (-k).toNat
  let r := if 0 ≤ k then v.den * Nat.pow 10 k.toNat else v.den
  let low := p / r
  let rest := p % r
  let lowFits := 0 < low && x.interval.contains (.scaled low 10 k)
  let highFits := x.interval.contains (.scaled (low + 1) 10 k)
  let lowIsNearer :=
    2 * rest < r || (2 * rest == r && tie == .even && low % 2 == 0)
  if lowFits && (lowIsNearer || !highFits) then some ⟨low, k⟩
  else if highFits then some ⟨low + 1, k⟩
  else none

def Decimal.trim : Nat → Decimal → Decimal
  | 0, d => d
  | fuel + 1, d =>
    if d.digits % 10 = 0 then trim fuel ⟨d.digits / 10, d.exponent + 1⟩ else d

/-- The shortest decimal for a finite `x` other than zero. Seventeen digits always suffice. -/
def shortest (tie : Tie) (x : Binary64) : Decimal :=
  let first := firstExponent (.scaled x.significand 2 x.exponent)
  match (List.range 17).findSome? fun (n : Nat) => onGrid? tie x (first - n) with
  | some d => d.trim 20
  | none => ⟨0, 0⟩

end ClaimRules.Binary64
