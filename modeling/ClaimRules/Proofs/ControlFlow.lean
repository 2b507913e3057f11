import ClaimRules.Proofs.Machine

/-! The nested loops of an evaluation do what the flat machine does: they execute the same statements
in the same order, report the same events and end with the same result. The counter of the machine
only moves forward, so the loops execute no statement twice. -/

namespace ClaimRules

/-- What holds of two executions of statements in one evaluation, the first one before the second:
nothing is executed after an error, nothing in a rule after an exit from it, and nothing in a block
after a continue in it. -/
structure Visit.Precedes (v w : Visit) : Prop where
  before : v.position.Before w.position
  isOk : ∃ outcome, v.outcome = .ok outcome
  exit : v.outcome = .ok .ruleSuccess ∨ v.outcome = .ok .ruleFail →
    v.position.rule ≠ w.position.rule
  skip : v.outcome = .ok .blockContinue → v.position.rule = w.position.rule →
    v.position.block ≠ w.position.block

namespace Machine

variable {book : RuleBook} {assertion : Value} {rule : Rule} {blocks : List Block} {block : Block}
  {r b : Nat}

def afterRule (book : RuleBook) (assertion : Value) (rule : Rule) (r : Nat) :
    Outcome × Context → Logged (Option Claim)
  | (.ruleSuccess, ctx) => .lift (succeed book rule r ctx) >>= resume book assertion
  | (outcome, ctx) =>
    .lift (.report (.ruleFinished r outcome)) >>= fun _ =>
      run book assertion (atRule book assertion (r + 1) ctx.success)

def afterBlock (book : RuleBook) (assertion : Value) (rule : Rule) (r b : Nat) :
    Outcome × Context → Logged (Option Claim)
  | (.ruleSuccess, ctx) => afterRule book assertion rule r (.ruleSuccess, ctx)
  | (.ruleFail, ctx) => afterRule book assertion rule r (.ruleFail, ctx)
  | (_, ctx) => run book assertion ⟨⟨r, b + 1, 0⟩, ctx⟩

theorem resume_follow {n : Nat} {outcome : Outcome} (h : outcome ≠ .statementContinue)
    (ctx : Context) :
    (.lift (follow book assertion rule ⟨r, b, n⟩ (outcome, ctx)) >>= resume book assertion) =
      afterBlock book assertion rule r b (outcome, ctx) := by
  cases outcome with
  | statementContinue => exact absurd rfl h
  | blockContinue => exact pure_bind _ _
  | ruleSuccess => rfl
  | ruleFail =>
    simp only [follow, Logged.lift_bind, bind_assoc, Logged.lift_pure, pure_bind]
    rfl

theorem getElem?_of_drop {α : Type} {items rest : List α} {item : α} {n : Nat}
    (h : items.drop n = item :: rest) : items[n]? = some item ∧ items.drop (n + 1) = rest := by
  constructor
  · rw [← List.head?_drop, h, List.head?_cons]
  · rw [← List.tail_drop, h, List.tail_cons]

theorem getElem?_of_drop_nil {α : Type} {items : List α} {n : Nat} (h : items.drop n = []) :
    items[n]? = none := by
  rw [← List.head?_drop, h, List.head?_nil]

theorem run_block (hr : book.rules[r]? = some rule) (hb : rule.blocks = some blocks)
    (hk : blocks[b]? = some block) (statements : List Statement) (n : Nat)
    (hd : block.drop n = statements) (ctx : Context) :
    run book assertion ⟨⟨r, b, n⟩, ctx⟩ =
      Block.logFrom book.formats r b n statements (State.entered ⟨⟨r, b, n⟩, ctx⟩) >>=
        afterBlock book assertion rule r b := by
  -- the loop consumes the statements that are left, the machine finds them by their number
  induction statements generalizing n ctx with
  | nil =>
    rw [run_eq, step_noStatement hr hb hk (getElem?_of_drop_nil hd), pure_bind, Block.logFrom,
      pure_bind]
    rfl
  | cons s rest ih =>
    obtain ⟨hs, hd⟩ := getElem?_of_drop hd
    rw [run_eq, step_statement hr hb hk hs, bind_assoc, Block.logFrom, bind_assoc]
    refine bind_congr fun p => ?_
    obtain ⟨outcome, ctx⟩ := p
    by_cases ho : outcome = .statementContinue
    · subst ho
      exact (pure_bind _ _).trans (ih (n + 1) hd ctx)
    · rw [resume_follow ho]
      cases outcome with
      | statementContinue => exact absurd rfl ho
      | _ => exact (pure_bind _ _).symm

theorem run_rule (hr : book.rules[r]? = some rule) (hb : rule.blocks = some blocks)
    (rest : List Block) (b : Nat) (hd : blocks.drop b = rest) (ctx : Context) :
    run book assertion ⟨⟨r, b, 0⟩, ctx⟩ =
      Rule.logFrom book.formats r b rest ctx >>= afterRule book assertion rule r := by
  induction rest generalizing b ctx with
  | nil =>
    rw [run_eq, step_noBlock hr hb (getElem?_of_drop_nil hd), Rule.logFrom, pure_bind]
    rfl
  | cons block rest ih =>
    obtain ⟨hk, hd⟩ := getElem?_of_drop hd
    rw [run_block hr hb hk block 0 List.drop_zero ctx, Rule.logFrom, bind_assoc]
    refine bind_congr fun p => ?_
    obtain ⟨outcome, ctx⟩ := p
    cases outcome with
    | ruleSuccess => exact (pure_bind _ _).symm
    | ruleFail => exact (pure_bind _ _).symm
    | statementContinue => exact ih (b + 1) hd ctx
    | blockContinue => exact ih (b + 1) hd ctx

theorem atRule_eq (hr : book.rules[r]? = some rule) (success : Bool) :
    atRule book assertion r success = ⟨⟨r, 0, 0⟩, rule.start r assertion success⟩ := by
  simp only [atRule, Rule.start, hr, Option.bind_some]

theorem run_atRule (rest : List Rule) (r : Nat) (hd : book.rules.drop r = rest) (success : Bool) :
    run book assertion (atRule book assertion r success) =
      book.logFrom assertion r success rest := by
  -- a rule starts with new bindings in both, so that only its number and the flag vary
  induction rest generalizing r success with
  | nil =>
    rw [run_eq, step_noRule (getElem?_of_drop_nil hd), RuleBook.logFrom, Logged.lift_bind,
      bind_assoc]
    rfl
  | cons rule rest ih =>
    obtain ⟨hr, hd⟩ := getElem?_of_drop hd
    rw [atRule_eq hr, RuleBook.logFrom, Rule.log]
    rcases hb : rule.blocks with _ | blocks
    · rw [run_eq, step_noBlocks hr hb]
      rfl
    · rw [run_rule hr hb blocks 0 List.drop_zero]
      refine bind_congr fun p => ?_
      obtain ⟨outcome, ctx⟩ := p
      cases outcome with
      | ruleSuccess =>
        simp only [afterRule, succeed, Logged.lift_bind, bind_assoc, Logged.lift_pure, pure_bind]
        rfl
      | _ => exact bind_congr fun _ => ih (r + 1) hd ctx.success

theorem before_of_move {p q : Position} {visits : List Visit} (h : Move book p visits q) :
    p.Before q := by
  cases h with
  | nextStatement _ _ _ => exact .inr ⟨rfl, .inr ⟨rfl, Nat.lt_succ_self _⟩⟩
  | pastBlock _ => exact .inr ⟨rfl, .inl (Nat.lt_succ_self _)⟩
  | nextBlock _ _ _ => exact .inr ⟨rfl, .inl (Nat.lt_succ_self _)⟩
  | nextRule _ _ _ => exact .inl (Nat.lt_succ_self _)

theorem precedes_of_move {p q : Position} {v w : Visit} (h : Move book p [v] q)
    (hw : ¬w.position.Before q) : v.Precedes w := by
  have hpq := before_of_move h
  cases h with
  | nextStatement _ hp ho =>
    subst hp
    refine ⟨?_, ⟨_, ho⟩, fun he => ?_, fun hs => ?_⟩
    · unfold Position.Before at *
      omega
    · simp [ho] at he
    · simp [ho] at hs
  | nextBlock _ hp ho =>
    subst hp
    refine ⟨?_, ⟨_, ho⟩, fun he => ?_, fun _ hr => ?_⟩
    · unfold Position.Before at *
      omega
    · simp [ho] at he
    · simp only [Position.Before, Position.nextBlock] at hw
      omega
  | nextRule _ hp ho =>
    subst hp
    refine ⟨?_, ⟨_, ho⟩, fun _ => ?_, fun hs => ?_⟩
    · unfold Position.Before at *
      omega
    · simp only [Position.Before, Position.nextRule] at hw
      omega
    · simp [ho] at hs

theorem visits_eq_of_step {state : State} {visits : List Visit} {traced : Traced Next}
    (h : step book assertion state = ⟨visits, traced⟩) :
    visits = [] ∨ ∃ v : Visit, v.position = state.position ∧ visits = [v] := by
  have hv : (step book assertion state).visits = visits := by rw [h]
  exact hv ▸ visits_step

theorem visits_run_of_running {state next : State} {visits : List Visit} {events : List Event}
    (h : step book assertion state = ⟨visits, ⟨events, .ok (.running next)⟩⟩) :
    (run book assertion state).visits = visits ++ (run book assertion next).visits := by
  rw [run_eq, Logged.visits_bind, h]
  rfl

theorem visits_run_of_stopped {state : State} {visits : List Visit} {events : List Event}
    {claim : Option Claim}
    (h : step book assertion state = ⟨visits, ⟨events, .ok (.stopped claim)⟩⟩) :
    (run book assertion state).visits = visits := by
  rw [run_eq, Logged.visits_bind, h]
  exact List.append_nil visits

theorem visits_run_of_error {state : State} {visits : List Visit} {events : List Event} {e : Error}
    (h : step book assertion state = ⟨visits, ⟨events, .error e⟩⟩) :
    (run book assertion state).visits = visits := by
  rw [run_eq, Logged.visits_bind, h]
  exact List.append_nil visits

theorem move_of_running {state next : State} {visits : List Visit} {events : List Event}
    (h : step book assertion state = ⟨visits, ⟨events, .ok (.running next)⟩⟩) :
    Move book state.position visits next.position := by
  have hm : Move book state.position (step book assertion state).visits next.position :=
    move_of_step (by rw [h])
  rwa [h] at hm

theorem not_before_of_mem_step {state : State} {visits : List Visit} {traced : Traced Next}
    (h : step book assertion state = ⟨visits, traced⟩) :
    ∀ v ∈ visits, ¬v.position.Before state.position := by
  intro v hv
  rcases visits_eq_of_step h with rfl | ⟨v', hp, rfl⟩
  · cases hv
  · rw [List.mem_singleton.1 hv, hp]
    unfold Position.Before
    omega

theorem pairwise_of_step {state : State} {visits : List Visit} {traced : Traced Next}
    (h : step book assertion state = ⟨visits, traced⟩) : visits.Pairwise Visit.Precedes := by
  rcases visits_eq_of_step h with rfl | ⟨v, -, rfl⟩
  · exact .nil
  · exact List.pairwise_singleton _ v

theorem not_before_of_mem_run (state : State) :
    ∀ v ∈ (run book assertion state).visits, ¬v.position.Before state.position := by
  induction state using run.induct book assertion with
  | case1 state visits events next h ih =>
    have hb := before_of_move (move_of_running h)
    intro v hv
    rw [visits_run_of_running h, List.mem_append] at hv
    rcases hv with hv | hv
    · exact not_before_of_mem_step h v hv
    · have hn := ih v hv
      unfold Position.Before at *
      omega
  | case2 state visits events claim h =>
    rw [visits_run_of_stopped h]
    exact not_before_of_mem_step h
  | case3 state visits events e h =>
    rw [visits_run_of_error h]
    exact not_before_of_mem_step h

theorem pairwise_run (state : State) :
    (run book assertion state).visits.Pairwise Visit.Precedes := by
  induction state using run.induct book assertion with
  | case1 state visits events next h ih =>
    rw [visits_run_of_running h, List.pairwise_append]
    refine ⟨pairwise_of_step h, ih, fun v hv w hw => ?_⟩
    -- what the rest of the run executes stands at the new counter or behind it
    have hm := move_of_running h
    rcases visits_eq_of_step h with rfl | ⟨v', -, rfl⟩
    · cases hv
    · rw [List.mem_singleton.1 hv]
      exact precedes_of_move hm (not_before_of_mem_run next w hw)
  | case2 state visits events claim h =>
    rw [visits_run_of_stopped h]
    exact pairwise_of_step h
  | case3 state visits events e h =>
    rw [visits_run_of_error h]
    exact pairwise_of_step h

end Machine

namespace RuleBook

/-- An evaluation is a run of the flat machine, with the same log of executed statements; their places
increase, and nothing is executed after an error, an exit of the rule or a continue of the block. -/
theorem evaluate_eq_machine (book : RuleBook) (assertion : Entries Value) :
    (book.log assertion).traced = book.evaluate (.map assertion) ∧
      book.log assertion =
        (.lift (.report (.processing (.map assertion))) >>= fun _ =>
          Machine.run book (.map assertion) (Machine.atRule book (.map assertion) 0 true)) ∧
      (book.log assertion).visits.Pairwise Visit.Precedes := by
  have hrun : Machine.run book (.map assertion) (Machine.atRule book (.map assertion) 0 true) =
      book.logFrom (.map assertion) 0 true book.rules :=
    Machine.run_atRule book.rules 0 List.drop_zero true
  have hlog : book.log assertion =
      (.lift (.report (.processing (.map assertion))) >>= fun _ =>
        Machine.run book (.map assertion) (Machine.atRule book (.map assertion) 0 true)) := by
    rw [hrun]
    rfl
  refine ⟨book.traced_log assertion, hlog, ?_⟩
  rw [hlog, Logged.visits_bind]
  exact Machine.pairwise_run _

end RuleBook
end ClaimRules
