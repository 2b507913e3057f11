import ClaimRules.Unicode.Case
import ClaimRules.Value.Natural

/-! Statements and the words that they use. -/

namespace ClaimRules

inductive Verb where
  | set
  | length
  | interpolate
  | append
  | unique
  | split
  | join
  | lower
  | upper
  | member
  | notMember
  | compare
  | regexp
  | regexpReplace
  | exit
  | skip
  deriving DecidableEq, Repr

namespace Verb

def all : List Verb :=
  [.set, .length, .interpolate, .append, .unique, .split, .join, .lower, .upper, .member,
    .notMember, .compare, .regexp, .regexpReplace, .exit, .skip]

def name : Verb → String
  | .set => "set"
  | .length => "length"
  | .interpolate => "interpolate"
  | .append => "append"
  | .unique => "unique"
  | .split => "split"
  | .join => "join"
  | .lower => "lower"
  | .upper => "upper"
  | .member => "in"
  | .notMember => "not_in"
  | .compare => "compare"
  | .regexp => "regexp"
  | .regexpReplace => "regexp_replace"
  | .exit => "exit"
  | .skip => "continue"

def ofName? (name : String) : Option Verb :=
  let folded := Unicode.lowerText name
  all.find? fun v => v.name == folded

end Verb

inductive Criteria where
  | ifSuccess
  | ifNotSuccess
  | always
  | never
  deriving DecidableEq, Repr

namespace Criteria

def all : List Criteria := [.ifSuccess, .ifNotSuccess, .always, .never]

def name : Criteria → String
  | .ifSuccess => "if_success"
  | .ifNotSuccess => "if_not_success"
  | .always => "always"
  | .never => "never"

def ofName? (name : String) : Option Criteria :=
  let folded := Unicode.lowerText name
  all.find? fun c => c.name == folded

def holds (success : Bool) : Criteria → Bool
  | .ifSuccess => success
  | .ifNotSuccess => !success
  | .always => true
  | .never => false

end Criteria

/-- How a rule goes on after a statement, a block or all of its blocks. -/
inductive Outcome where
  | statementContinue
  | blockContinue
  | ruleSuccess
  | ruleFail
  deriving DecidableEq, Repr

def Outcome.ofStatus? (status : String) : Option Outcome :=
  match Unicode.lowerText status with
  | "rule_succeeds" => some .ruleSuccess
  | "rule_fails" => some .ruleFail
  | _ => none

structure Statement where
  items : List Value

namespace Statement

def text (s : Statement) : String := (Value.array s.items).natural

end Statement
end ClaimRules
