import ClaimRules.Proofs.Lockstep
import ClaimRules.Proofs.Log

/-! A flat machine for evaluation: one counter that says which statement of which block of which rule
comes next, and a single step that executes the statement there and moves the counter. -/

namespace ClaimRules

namespace Position

/-- The order of execution: by rule, then by block, then by statement. -/
def Before (p q : Position) : Prop :=
  p.rule < q.rule ∨
    p.rule = q.rule ∧ (p.block < q.block ∨ p.block = q.block ∧ p.statement < q.statement)

def nextStatement (p : Position) : Position := ⟨p.rule, p.block, p.statement + 1⟩

def nextBlock (p : Position) : Position := ⟨p.rule, p.block + 1, 0⟩

def nextRule (p : Position) : Position := ⟨p.rule + 1, 0, 0⟩

end Position

namespace RuleBook

def blocksAt (book : RuleBook) (rule : Nat) : List Block :=
  ((book.rules[rule]?).bind Rule.blocks).getD []

def statementsAt (book : RuleBook) (rule block : Nat) : Block :=
  ((book.blocksAt rule)[block]?).getD []

end RuleBook

namespace Machine

structure State where
  position : Position
  context : Context

inductive Next where
  | running (state : State)
  | stopped (claim : Option Claim)

def atRule (book : RuleBook) (assertion : Value) (number : Nat) (success : Bool) : State :=
  ⟨⟨number, 0, 0⟩,
    ⟨Bindings.forRule number ((book.rules[number]?.bind Rule.name).getD "") assertion, success⟩⟩

def State.entered (state : State) : Context :=
  if state.position.statement = 0 then state.context.enterBlock state.position.block
  else state.context

/-- Stops with the claim of the rule at the counter. -/
def succeed (book : RuleBook) (rule : Rule) (number : Nat) (ctx : Context) : Traced Next := do
  .report (.ruleFinished number .ruleSuccess)
  let claim ← rule.extractClaim book.formats book.mappings ctx.bindings
  .report (.ruleMatched number claim)
  return .stopped (some claim)

def follow (book : RuleBook) (assertion : Value) (rule : Rule) (position : Position) :
    Outcome × Context → Traced Next
  | (.statementContinue, ctx) => return .running ⟨position.nextStatement, ctx⟩
  | (.blockContinue, ctx) => return .running ⟨position.nextBlock, ctx⟩
  | (.ruleFail, ctx) => do
    .report (.ruleFinished position.rule .ruleFail)
    return .running (atRule book assertion (position.rule + 1) ctx.success)
  | (.ruleSuccess, ctx) => succeed book rule position.rule ctx

/-- One step: past the last rule there is no match, past the last block of a rule it has succeeded,
past the last statement of a block the next block comes, and a statement is executed. -/
def step (book : RuleBook) (assertion : Value) (state : State) : Logged Next :=
  match book.rules[state.position.rule]? with
  | none => .lift do
    .report .noMatch
    return .stopped none
  | some rule =>
    match rule.blocks with
    | none => .lift (.fail (.rule .noBlocks))
    | some blocks =>
      match blocks[state.position.block]? with
      | none => .lift (succeed book rule state.position.rule state.context)
      | some block =>
        match block[state.position.statement]? with
        | none => return .running ⟨state.position.nextBlock, state.entered⟩
        | some s => do
          let after ← s.log book.formats state.position
            (state.entered.enterStatement state.position.statement)
          .lift (follow book assertion rule state.position after)

inductive Move (book : RuleBook) (p : Position) : List Visit → Position → Prop where
  | nextStatement {v : Visit} (h : p.statement < (book.statementsAt p.rule p.block).length)
      (hp : v.position = p) (ho : v.outcome = .ok .statementContinue) :
      Move book p [v] p.nextStatement
  | pastBlock (h : p.block < (book.blocksAt p.rule).length) : Move book p [] p.nextBlock
  | nextBlock {v : Visit} (h : p.block < (book.blocksAt p.rule).length) (hp : v.position = p)
      (ho : v.outcome = .ok .blockContinue) : Move book p [v] p.nextBlock
  | nextRule {v : Visit} (h : p.rule < book.rules.length) (hp : v.position = p)
      (ho : v.outcome = .ok .ruleFail) : Move book p [v] p.nextRule

section Step

variable {book : RuleBook} {assertion : Value} {state next : State} {rule : Rule}
  {blocks : List Block} {block : Block} {s : Statement} {ctx : Context}

theorem step_noRule (hr : book.rules[state.position.rule]? = none) :
    step book assertion state =
      .lift (.report .noMatch >>= fun _ => pure (.stopped none)) := by
  simp only [step, hr]

theorem step_noBlocks (hr : book.rules[state.position.rule]? = some rule)
    (hb : rule.blocks = none) :
    step book assertion state = .lift (.fail (.rule .noBlocks)) := by
  simp only [step, hr, hb]

theorem step_noBlock (hr : book.rules[state.position.rule]? = some rule)
    (hb : rule.blocks = some blocks) (hk : blocks[state.position.block]? = none) :
    step book assertion state =
      .lift (succeed book rule state.position.rule state.context) := by
  simp only [step, hr, hb, hk]

theorem step_noStatement (hr : book.rules[state.position.rule]? = some rule)
    (hb : rule.blocks = some blocks) (hk : blocks[state.position.block]? = some block)
    (hs : block[state.position.statement]? = none) :
    step book assertion state = pure (.running ⟨state.position.nextBlock, state.entered⟩) := by
  simp only [step, hr, hb, hk, hs]

theorem step_statement (hr : book.rules[state.position.rule]? = some rule)
    (hb : rule.blocks = some blocks) (hk : blocks[state.position.block]? = some block)
    (hs : block[state.position.statement]? = some s) :
    step book assertion state =
      s.log book.formats state.position
        (state.entered.enterStatement state.position.statement) >>=
      fun after => .lift (follow book assertion rule state.position after) := by
  simp only [step, hr, hb, hk, hs]

theorem result_succeed_ne {number : Nat} :
    (succeed book rule number ctx).result ≠ .ok (.running next) := by
  intro h
  simp only [succeed, Traced.result_bind, bind_eq_ok_iff] at h
  obtain ⟨_, _, _, _, _, _, h⟩ := h
  cases h

theorem position_follow {p : Position} {outcome : Outcome}
    (h : (follow book assertion rule p (outcome, ctx)).result = .ok (.running next)) :
    outcome = .statementContinue ∧ next.position = p.nextStatement ∨
      outcome = .blockContinue ∧ next.position = p.nextBlock ∨
      outcome = .ruleFail ∧ next.position = p.nextRule := by
  cases outcome with
  | statementContinue =>
    cases h
    exact .inl ⟨rfl, rfl⟩
  | blockContinue =>
    cases h
    exact .inr (.inl ⟨rfl, rfl⟩)
  | ruleFail =>
    cases h
    exact .inr (.inr ⟨rfl, rfl⟩)
  | ruleSuccess => exact absurd h result_succeed_ne

theorem blocksAt_eq {number : Nat} (hr : book.rules[number]? = some rule)
    (hb : rule.blocks = some blocks) : book.blocksAt number = blocks := by
  simp only [RuleBook.blocksAt, hr, Option.bind_some, hb, Option.getD_some]

theorem move_of_step (h : (step book assertion state).traced.result = .ok (.running next)) :
    Move book state.position (step book assertion state).visits next.position := by
  rcases hr : book.rules[state.position.rule]? with _ | rule
  · rw [step_noRule hr] at h
    cases h
  -- a move within the rules needs to know that the counter stands at one, and so for its blocks
  have hlr := (List.getElem?_eq_some_iff.1 hr).1
  rcases hb : rule.blocks with _ | blocks
  · rw [step_noBlocks hr hb] at h
    cases h
  rcases hk : blocks[state.position.block]? with _ | block
  · rw [step_noBlock hr hb hk] at h
    exact absurd h result_succeed_ne
  have hblocks := blocksAt_eq hr hb
  have hlb := (List.getElem?_eq_some_iff.1 hk).1
  rw [← hblocks] at hlb
  rcases hs : block[state.position.statement]? with _ | s
  · rw [step_noStatement hr hb hk hs] at h ⊢
    cases h
    exact .pastBlock hlb
  · have hls := (List.getElem?_eq_some_iff.1 hs).1
    have hblock : book.statementsAt state.position.rule state.position.block = block := by
      simp only [RuleBook.statementsAt, hblocks, hk, Option.getD_some]
    rw [← hblock] at hls
    rw [step_statement hr hb hk hs] at h ⊢
    rw [Logged.traced_bind, Traced.result_bind, bind_eq_ok_iff] at h
    obtain ⟨⟨outcome, ctx⟩, hrun, hf⟩ := h
    have ho := congrArg Prod.fst (Statement.execute_of_run hrun)
    rw [Logged.visits_bind, hrun]
    obtain ⟨rfl, hn⟩ | ⟨rfl, hn⟩ | ⟨rfl, hn⟩ := position_follow hf
    · rw [hn]
      exact .nextStatement hls rfl ho
    · rw [hn]
      exact .nextBlock hlb rfl ho
    · rw [hn]
      exact .nextRule hlr rfl ho

theorem visits_step : (step book assertion state).visits = [] ∨
    ∃ v : Visit, v.position = state.position ∧ (step book assertion state).visits = [v] := by
  rcases hr : book.rules[state.position.rule]? with _ | rule
  · exact .inl (by rw [step_noRule hr]; rfl)
  rcases hb : rule.blocks with _ | blocks
  · exact .inl (by rw [step_noBlocks hr hb]; rfl)
  rcases hk : blocks[state.position.block]? with _ | block
  · exact .inl (by rw [step_noBlock hr hb hk]; rfl)
  rcases hs : block[state.position.statement]? with _ | s
  · exact .inl (by rw [step_noStatement hr hb hk hs]; rfl)
  · refine .inr ⟨⟨state.position, s,
      state.entered.enterStatement state.position.statement⟩, rfl, ?_⟩
    rw [step_statement hr hb hk hs, Logged.visits_bind]
    split <;> rfl

end Step

/-- What is left in front of the counter: rules, blocks of the rule, statements of the block. -/
def ahead (book : RuleBook) (p : Position) : Nat × Nat × Nat :=
  (book.rules.length - p.rule, (book.blocksAt p.rule).length - p.block,
    (book.statementsAt p.rule p.block).length - p.statement)

theorem ahead_lt_of_move {book : RuleBook} {p q : Position} {visits : List Visit}
    (h : Move book p visits q) :
    Prod.Lex (· < ·) (Prod.Lex (· < ·) (· < ·)) (ahead book q) (ahead book p) := by
  cases h with
  | nextStatement h _ _ => exact .right _ (.right _ (by simp only [Position.nextStatement]; omega))
  | pastBlock h => exact .right _ (.left _ _ (by simp only [Position.nextBlock]; omega))
  | nextBlock h _ _ => exact .right _ (.left _ _ (by simp only [Position.nextBlock]; omega))
  | nextRule h _ _ => exact .left _ _ (by simp only [Position.nextRule]; omega)

def run (book : RuleBook) (assertion : Value) (state : State) : Logged (Option Claim) :=
  match _h : step book assertion state with
  | ⟨visits, ⟨events, .ok (.running next)⟩⟩ =>
    ⟨visits, ⟨events, .ok ()⟩⟩ >>= fun _ => run book assertion next
  | ⟨visits, ⟨events, .ok (.stopped claim)⟩⟩ => ⟨visits, ⟨events, .ok claim⟩⟩
  | ⟨visits, ⟨events, .error e⟩⟩ => ⟨visits, ⟨events, .error e⟩⟩
  termination_by ahead book state.position
  decreasing_by exact ahead_lt_of_move (move_of_step (by rw [_h]))

def resume (book : RuleBook) (assertion : Value) : Next → Logged (Option Claim)
  | .running next => run book assertion next
  | .stopped claim => pure claim

theorem run_eq (book : RuleBook) (assertion : Value) (state : State) :
    run book assertion state = step book assertion state >>= resume book assertion := by
  rw [run]
  split
  · next h =>
    rw [h]
    rfl
  · next h =>
    rw [h]
    change _ = (⟨_ ++ [], ⟨_ ++ [], .ok _⟩⟩ : Logged (Option Claim))
    simp only [List.append_nil]
  · next h =>
    rw [h]
    change _ = (⟨_ ++ [], ⟨_, _⟩⟩ : Logged (Option Claim))
    simp only [List.append_nil]

end Machine
end ClaimRules
