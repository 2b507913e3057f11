import ClaimRules.Evaluation

/-! Evaluation with a log of the statements that it executes. The loops are those of an evaluation,
and forgetting the log gives the evaluation back. -/

namespace ClaimRules

structure Position where
  rule : Nat
  block : Nat
  statement : Nat
  deriving DecidableEq, Repr

/-- An execution of a statement: where it stands, and the context that it starts in. -/
structure Visit where
  position : Position
  statement : Statement
  context : Context

def Visit.outcome (visit : Visit) : Except Error Outcome :=
  (visit.statement.execute visit.context).1

@[ext] structure Logged (α : Type) where
  visits : List Visit
  traced : Traced α

namespace Logged

variable {α β : Type}

def lift (traced : Traced α) : Logged α := ⟨[], traced⟩

def andThen (first : Logged α) (second : α → Logged β) : Logged β where
  visits := first.visits ++
    match first.traced.result with
    | .ok a => (second a).visits
    | .error _ => []
  traced := first.traced >>= fun a => (second a).traced

instance : Monad Logged where
  pure a := lift (pure a)
  bind := andThen

instance : LawfulMonad Logged :=
  LawfulMonad.mk' Logged
    (fun x => by
      change andThen x (fun a => lift (pure a)) = x
      unfold andThen lift
      rcases x.traced.result <;> simp)
    (fun a f => by
      change andThen (lift (pure a)) f = f a
      simp [andThen, lift])
    (fun x f g => by
      apply Logged.ext
      · -- after an error neither side executes anything more
        change (andThen (andThen x f) g).visits = (andThen x fun a => andThen (f a) g).visits
        simp only [andThen, Traced.result_bind]
        rcases x.traced.result with e | a
        · simp [bind, Except.bind]
        · simp [bind, Except.bind]
      · exact bind_assoc x.traced (fun a => (f a).traced) fun a => (g a).traced)

theorem lift_pure (a : α) : lift (pure a) = pure a := rfl

@[simp] theorem visits_pure (a : α) : (pure a : Logged α).visits = [] := rfl

@[simp] theorem visits_lift (traced : Traced α) : (lift traced).visits = [] := rfl

theorem visits_bind (x : Logged α) (f : α → Logged β) :
    (x >>= f).visits = x.visits ++
      match x.traced.result with
      | .ok a => (f a).visits
      | .error _ => [] := rfl

theorem lift_bind (x : Traced α) (f : α → Traced β) :
    lift (x >>= f) = lift x >>= fun a => lift (f a) := by
  apply Logged.ext
  · rw [visits_bind]
    split <;> rfl
  · rfl

@[simp] theorem traced_pure (a : α) : (pure a : Logged α).traced = pure a := rfl

@[simp] theorem traced_lift (traced : Traced α) : (lift traced).traced = traced := rfl

@[simp] theorem traced_bind (x : Logged α) (f : α → Logged β) :
    (x >>= f).traced = x.traced >>= fun a => (f a).traced := rfl

end Logged

def Statement.log (s : Statement) (formats : Formats) (position : Position) (ctx : Context) :
    Logged (Outcome × Context) :=
  ⟨[⟨position, s, ctx⟩], s.run formats ctx⟩

namespace Block

def logFrom (formats : Formats) (rule block : Nat) :
    Nat → List Statement → Context → Logged (Outcome × Context)
  | _, [], ctx => pure (.blockContinue, ctx)
  | number, s :: rest, ctx => do
    let (outcome, ctx) ← s.log formats ⟨rule, block, number⟩ (ctx.enterStatement number)
    match outcome with
    | .statementContinue => logFrom formats rule block (number + 1) rest ctx
    | outcome => return (outcome, ctx)

theorem traced_logFrom (formats : Formats) (rule block number : Nat) (statements : List Statement)
    (ctx : Context) :
    (logFrom formats rule block number statements ctx).traced =
      runFrom formats number statements ctx := by
  induction statements generalizing number ctx with
  | nil => rfl
  | cons s rest ih =>
    unfold logFrom runFrom
    rw [Logged.traced_bind]
    refine bind_congr fun p => ?_
    obtain ⟨outcome, ctx⟩ := p
    cases outcome with
    | statementContinue => exact ih (number + 1) ctx
    | _ => rfl

end Block

namespace Rule

def logFrom (formats : Formats) (rule : Nat) :
    Nat → List Block → Context → Logged (Outcome × Context)
  | _, [], ctx => pure (.ruleSuccess, ctx)
  | number, block :: rest, ctx => do
    let (outcome, ctx) ← Block.logFrom formats rule number 0 block (ctx.enterBlock number)
    match outcome with
    | .ruleSuccess => return (.ruleSuccess, ctx)
    | .ruleFail => return (.ruleFail, ctx)
    | _ => logFrom formats rule (number + 1) rest ctx

def log (rule : Rule) (formats : Formats) (number : Nat) (ctx : Context) :
    Logged (Outcome × Context) :=
  match rule.blocks with
  | none => .lift (.fail (.rule .noBlocks))
  | some blocks => logFrom formats number 0 blocks ctx

theorem traced_logFrom (formats : Formats) (rule number : Nat) (blocks : List Block)
    (ctx : Context) :
    (logFrom formats rule number blocks ctx).traced = runFrom formats number blocks ctx := by
  induction blocks generalizing number ctx with
  | nil => rfl
  | cons block rest ih =>
    unfold logFrom runFrom
    rw [Logged.traced_bind, Block.traced_logFrom]
    refine bind_congr fun p => ?_
    obtain ⟨outcome, ctx⟩ := p
    cases outcome with
    | ruleSuccess => rfl
    | ruleFail => rfl
    | statementContinue => exact ih (number + 1) ctx
    | blockContinue => exact ih (number + 1) ctx

theorem traced_log (rule : Rule) (formats : Formats) (number : Nat) (ctx : Context) :
    (rule.log formats number ctx).traced = rule.run formats ctx := by
  unfold log run
  cases rule.blocks with
  | none => rfl
  | some blocks => exact traced_logFrom formats number 0 blocks ctx

end Rule

namespace RuleBook

def logFrom (book : RuleBook) (assertion : Value) :
    Nat → Bool → List Rule → Logged (Option Claim)
  | _, _, [] => do
    .lift (.report .noMatch)
    return none
  | number, success, rule :: rest => do
    let (outcome, ctx) ← rule.log book.formats number (rule.start number assertion success)
    .lift (.report (.ruleFinished number outcome))
    match outcome with
    | .ruleSuccess => do
      let claim ← .lift (rule.extractClaim book.formats book.mappings ctx.bindings)
      .lift (.report (.ruleMatched number claim))
      return some claim
    | _ => logFrom book assertion (number + 1) ctx.success rest

theorem traced_logFrom (book : RuleBook) (assertion : Value) (number : Nat) (success : Bool)
    (rules : List Rule) :
    (book.logFrom assertion number success rules).traced =
      book.tryFrom assertion number success rules := by
  induction rules generalizing number success with
  | nil => rfl
  | cons rule rest ih =>
    unfold logFrom tryFrom
    rw [Logged.traced_bind, Rule.traced_log]
    refine bind_congr fun p => ?_
    obtain ⟨outcome, ctx⟩ := p
    rw [Logged.traced_bind]
    refine bind_congr fun _ => ?_
    cases outcome with
    | ruleSuccess => rfl
    | _ => exact ih (number + 1) ctx.success

def log (book : RuleBook) (assertion : Entries Value) : Logged (Option Claim) := do
  .lift (.report (.processing (.map assertion)))
  book.logFrom (.map assertion) 0 true book.rules

theorem traced_log (book : RuleBook) (assertion : Entries Value) :
    (book.log assertion).traced = book.evaluate (.map assertion) := by
  unfold log evaluate
  rw [Logged.traced_bind, Logged.traced_lift]
  exact bind_congr fun _ => traced_logFrom book (.map assertion) 0 true book.rules

end RuleBook
end ClaimRules
