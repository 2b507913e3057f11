/-! Runs of code points that are moved alike, in which mappings of case are written. -/

namespace ClaimRules.Unicode

/-- Every `step`-th code point from `first` to `last` is moved by `shift`. -/
structure CaseRun where
  first : Nat
  last : Nat
  step : Nat
  shift : Int
  deriving DecidableEq, Repr

namespace CaseRun

def covers (run : CaseRun) (code : Nat) : Bool :=
  run.first ≤ code && code ≤ run.last && (code - run.first) % run.step == 0

def move (run : CaseRun) (code : Nat) : Nat :=
  ((code : Int) + run.shift).toNat

def pairs (run : CaseRun) : List (Nat × Nat) :=
  ((List.range ((run.last - run.first) / run.step + 1)).map fun i => run.first + i * run.step).map
    fun code => (code, run.move code)

end CaseRun

def shiftCode (runs : List CaseRun) (code : Nat) : Nat :=
  match runs.find? (·.covers code) with
  | some run => run.move code
  | none => code

end ClaimRules.Unicode
