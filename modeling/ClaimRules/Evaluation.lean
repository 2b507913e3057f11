import ClaimRules.Execution
import ClaimRules.Rule
import ClaimRules.Trace

/-! Evaluation of rules against an assertion. -/

namespace ClaimRules

/-- Templates of the names under which rules and statements appear in diagnostics. -/
structure Formats where
  rule : String
  statement : String
  deriving DecidableEq, Repr

namespace Formats

def initial : Formats where
  rule := "<rule [$\x7brule_number\x7d:\"$\x7brule_name\x7d\"]>"
  statement :=
    "<rule [$\x7brule_number\x7d:\"$\x7brule_name\x7d\"] " ++
      "block [$\x7bblock_number\x7d:\"$\x7bblock_name\x7d\"] " ++
      "statement $\x7bstatement_number\x7d>"

def ruleId (formats : Formats) (bindings : Bindings) : Except Error String :=
  Template.substitute formats.rule bindings

def statementId (formats : Formats) (bindings : Bindings) : Except Error String :=
  Template.substitute formats.statement bindings

def describeStatement (formats : Formats) (bindings : Bindings) : String :=
  match formats.statementId bindings with
  | .ok id => id
  | .error e => "<statement id unavailable: " ++ e.message ++ ">"

def describeRule (formats : Formats) (bindings : Bindings) : String :=
  match formats.ruleId bindings with
  | .ok id => id
  | .error _ => "<rule>"

end Formats

structure RuleBook where
  rules : List Rule
  mappings : MappingTable
  formats : Formats

namespace Effect

def reportTo : Effect → Traced Unit
  | .search matched groups named => .report (.searched matched groups.length named.length)
  | _ => .ok ()

theorem result_reportTo (effect : Effect) : effect.reportTo.result = .ok () := by
  cases effect <;> rfl

end Effect

namespace Statement

def verbText (s : Statement) : String :=
  match s.items with
  | [] => ""
  | item :: _ => item.splice

def run (s : Statement) (formats : Formats) (ctx : Context) : Traced (Outcome × Context) :=
  let located (e : Error) (after : Context) : Error :=
    .inStatement (formats.describeStatement after.bindings) s.text e
  match s.effect ctx with
  | .error e => .fail (located e ctx)
  | .ok effect => do
    effect.reportTo
    match effect.apply ctx with
    | (.error e, after) => .fail (located e after)
    | (.ok outcome, after) => do
      .report (.executed (formats.describeStatement after.bindings) s.verbText after.success
        outcome)
      return (outcome, after)

theorem result_run (s : Statement) (formats : Formats) (ctx : Context) :
    (s.run formats ctx).result =
      match s.execute ctx with
      | (.ok outcome, after) => .ok (outcome, after)
      | (.error e, after) =>
        .error (.inStatement (formats.describeStatement after.bindings) s.text e) := by
  unfold run execute
  rcases s.effect ctx with e | effect
  · rfl
  · simp only [Traced.result_bind, Effect.result_reportTo]
    rcases effect.apply ctx with ⟨_ | outcome, after⟩ <;> rfl

theorem execute_of_run {s : Statement} {formats : Formats} {ctx after : Context}
    {outcome : Outcome} (h : (s.run formats ctx).result = .ok (outcome, after)) :
    s.execute ctx = (.ok outcome, after) := by
  rw [result_run] at h
  rcases he : s.execute ctx with ⟨e | outcome', after'⟩
  · simp [he] at h
  · simp only [he, Except.ok.injEq, Prod.mk.injEq] at h
    obtain ⟨rfl, rfl⟩ := h
    rfl

end Statement

namespace Block

/-- Executes the statements of a block from a position on. One that does not simply continue ends the
block, and so does its end. -/
def runFrom (formats : Formats) : Nat → List Statement → Context → Traced (Outcome × Context)
  | _, [], ctx => pure (.blockContinue, ctx)
  | number, s :: rest, ctx => do
    let (outcome, ctx) ← s.run formats (ctx.enterStatement number)
    match outcome with
    | .statementContinue => runFrom formats (number + 1) rest ctx
    | outcome => return (outcome, ctx)

end Block

namespace Rule

/-- Executes the blocks of a rule from a position on. A rule whose blocks all end has succeeded. -/
def runFrom (formats : Formats) : Nat → List Block → Context → Traced (Outcome × Context)
  | _, [], ctx => pure (.ruleSuccess, ctx)
  | number, block :: rest, ctx => do
    let (outcome, ctx) ← Block.runFrom formats 0 block (ctx.enterBlock number)
    match outcome with
    | .ruleSuccess => return (.ruleSuccess, ctx)
    | .ruleFail => return (.ruleFail, ctx)
    | _ => runFrom formats (number + 1) rest ctx

def run (rule : Rule) (formats : Formats) (ctx : Context) : Traced (Outcome × Context) :=
  match rule.blocks with
  | none => .fail (.rule .noBlocks)
  | some blocks => runFrom formats 0 blocks ctx

def findMapping (rule : Rule) (formats : Formats) (mappings : MappingTable) (bindings : Bindings) :
    Traced Mapping :=
  match rule.mapping with
  | some mapping => pure mapping
  | none => do
    let ruleId ← .ofExcept (formats.ruleId bindings)
    match rule.mappingName with
    | none => .fail (.rule (.noMapping ruleId))
    | some name =>
      match Entries.get? mappings name with
      | none => .fail (.rule (.unknownMapping ruleId name))
      | some mapping => do
        .report (.namedMapping name ruleId)
        return mapping

end Rule

namespace Mapping

def claim (mapping : Mapping) (formats : Formats) (bindings : Bindings) : Except Error Claim :=
  mapItems
    (fun entry =>
      match entry.2.resolve bindings with
      | .ok value => .ok (entry.1, value)
      | .error e =>
        .error (.inMapping (formats.describeRule bindings) entry.1 entry.2.text e))
    mapping

end Mapping

namespace Rule

def extractClaim (rule : Rule) (formats : Formats) (mappings : MappingTable) (bindings : Bindings) :
    Traced Claim := do
  let mapping ← rule.findMapping formats mappings bindings
  .ofExcept (mapping.claim formats bindings)

def start (rule : Rule) (number : Nat) (assertion : Value) (success : Bool) : Context :=
  ⟨Bindings.forRule number (rule.name.getD "") assertion, success⟩

end Rule

namespace RuleBook

/-- Tries the rules from a position on. The first one that succeeds yields its claim; only the success
flag is handed from one to the next. -/
def tryFrom (book : RuleBook) (assertion : Value) :
    Nat → Bool → List Rule → Traced (Option Claim)
  | _, _, [] => do
    .report .noMatch
    return none
  | number, success, rule :: rest => do
    let (outcome, ctx) ← rule.run book.formats (rule.start number assertion success)
    .report (.ruleFinished number outcome)
    match outcome with
    | .ruleSuccess => do
      let claim ← rule.extractClaim book.formats book.mappings ctx.bindings
      .report (.ruleMatched number claim)
      return some claim
    | _ => tryFrom book assertion (number + 1) ctx.success rest

def evaluate (book : RuleBook) (assertion : Value) : Traced (Option Claim) :=
  match assertion with
  | .map _ => do
    .report (.processing assertion)
    book.tryFrom assertion 0 true book.rules
  | other => .fail (.rule (.assertionKind other.kind))

def evaluateText (book : RuleBook) (text : String) : Traced (Option Claim) := do
  let doc ← .ofExcept (Json.ofText text)
  let assertion ← .ofExcept (Value.load doc)
  book.evaluate assertion

end RuleBook
end ClaimRules
