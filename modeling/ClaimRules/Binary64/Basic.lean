/-! Real numbers as the bit patterns of the 64-bit binary format: one sign bit, eleven bits of
exponent and fifty-two of fraction. -/

namespace ClaimRules

structure Binary64 where
  bits : UInt64
  deriving DecidableEq, Repr

namespace Binary64

def signBit : Nat := 0x8000000000000000

def unit : Nat := 0x10000000000000

def magnitude (x : Binary64) : Nat := x.bits.toNat % signBit

def isNegative (x : Binary64) : Bool := signBit ≤ x.bits.toNat

def infinite : Nat := 0x7ff * unit

def isFinite (x : Binary64) : Bool := x.magnitude < infinite

def isNaN (x : Binary64) : Bool := infinite < x.magnitude

def ofMagnitude (negative : Bool) (magnitude : Nat) : Binary64 :=
  ⟨UInt64.ofNat (if negative then signBit + magnitude else magnitude)⟩

def place (x : Binary64) : Int :=
  if x.isNegative then -(x.magnitude : Int) else x.magnitude

def same (x y : Binary64) : Bool := !x.isNaN && !y.isNaN && x.place == y.place

def compare? (x y : Binary64) : Option Ordering :=
  if x.isNaN || y.isNaN then none else some (compare x.place y.place)

/-- The whole number `m` of a finite number `m * 2 ^ q`. -/
def significand (x : Binary64) : Nat :=
  if x.magnitude < unit then x.magnitude else unit + x.magnitude % unit

def exponent (x : Binary64) : Int :=
  ((max 1 (x.magnitude / unit) : Nat) : Int) - 1075

end Binary64
end ClaimRules
