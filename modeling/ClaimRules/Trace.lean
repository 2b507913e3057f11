import ClaimRules.Error
import ClaimRules.Value.Json

/-! Events of an evaluation, and computations that report them. -/

namespace ClaimRules

abbrev Claim := Entries Value

inductive Event where
  | processing (assertion : Value)
  | searched (matched : Bool) (groups named : Nat)
  | executed (statement verb : String) (success : Bool) (outcome : Outcome)
  | ruleFinished (rule : Nat) (outcome : Outcome)
  | namedMapping (name ruleId : String)
  | ruleMatched (rule : Nat) (claim : Claim)
  | noMatch

inductive Severity where
  | info
  | debug
  | trace
  deriving DecidableEq, Repr

inductive Datum where
  | text (text : String)
  | flag (b : Bool)
  | number (n : Nat)
  deriving DecidableEq, Repr

def Severity.name : Severity → String
  | .info => "INFO"
  | .debug => "DEBUG"
  | .trace => "TRACE"

def Outcome.name : Outcome → String
  | .statementContinue => "StatementContinue"
  | .blockContinue => "BlockContinue"
  | .ruleSuccess => "RuleSuccess"
  | .ruleFail => "RuleFail"

namespace Event

def severity : Event → Severity
  | .processing _ => .info
  | .searched _ _ _ => .trace
  | .executed _ _ _ _ => .debug
  | .ruleFinished _ _ => .debug
  | .namedMapping _ _ => .debug
  | .ruleMatched _ _ => .info
  | .noMatch => .info

def message : Event → String
  | .processing _ => "processing assertion"
  | .searched _ _ _ => "regexp"
  | .executed _ _ _ _ => "statement executed"
  | .ruleFinished _ _ => "rule finished"
  | .namedMapping _ _ => "using named mapping"
  | .ruleMatched _ _ => "rule matched"
  | .noMatch => "no rule matched"

def data : Event → List (String × Datum)
  | .processing assertion => [("assertion", .text assertion.compactJson)]
  | .searched matched groups named =>
    [("matched", .flag matched), ("groups", .number groups), ("named", .number named)]
  | .executed statement verb success outcome =>
    [("statement", .text statement), ("verb", .text verb), ("success", .flag success),
      ("outcome", .text outcome.name)]
  | .ruleFinished rule outcome => [("rule", .number rule), ("outcome", .text outcome.name)]
  | .namedMapping name ruleId => [("mapping_name", .text name), ("rule", .text ruleId)]
  | .ruleMatched rule claim =>
    [("rule", .number rule), ("mapping", .text (Value.map claim).compactJson)]
  | .noMatch => []

end Event

/-- A computation that reports events and ends with a result or an error. -/
@[ext] structure Traced (α : Type) where
  events : List Event
  result : Except Error α

namespace Traced

def ok {α : Type} (a : α) : Traced α := ⟨[], .ok a⟩

def fail {α : Type} (e : Error) : Traced α := ⟨[], .error e⟩

def ofExcept {α : Type} (result : Except Error α) : Traced α := ⟨[], result⟩

def report (event : Event) : Traced Unit := ⟨[event], .ok ()⟩

def andThen {α β : Type} (first : Traced α) (second : α → Traced β) : Traced β :=
  match first.result with
  | .ok a => ⟨first.events ++ (second a).events, (second a).result⟩
  | .error e => ⟨first.events, .error e⟩

instance : Monad Traced where
  pure := ok
  bind := andThen

@[simp] theorem result_pure {α : Type} (a : α) : (pure a : Traced α).result = .ok a := rfl

@[simp] theorem result_report (event : Event) : (report event).result = .ok () := rfl

@[simp] theorem result_fail {α : Type} (e : Error) : (fail e : Traced α).result = .error e := rfl

@[simp] theorem result_ofExcept {α : Type} (r : Except Error α) : (ofExcept r).result = r := rfl

instance : LawfulMonad Traced :=
  LawfulMonad.mk' Traced
    (fun t => by
      obtain ⟨events, result⟩ := t
      cases result <;> simp [Functor.map, andThen, ok])
    (fun a f => by
      change andThen (ok a) f = f a
      simp [andThen, ok])
    (fun t f g => by
      obtain ⟨events, result⟩ := t
      change andThen (andThen _ f) g = andThen _ fun a => andThen (f a) g
      cases result with
      | error e => rfl
      | ok a =>
        simp only [andThen]
        cases (f a).result <;> simp)

theorem result_bind {α β : Type} (first : Traced α) (second : α → Traced β) :
    (first >>= second).result = first.result >>= fun a => (second a).result := by
  change (andThen first second).result = _
  unfold andThen
  cases first.result <;> rfl

end Traced
end ClaimRules
