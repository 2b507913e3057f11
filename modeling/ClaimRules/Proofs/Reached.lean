import ClaimRules.Proofs.SuccessFlag

/-! The states that an evaluation comes to. Each execution of a statement takes place at one of them,
so what holds at the start and is kept by every step holds wherever a statement is executed. -/

namespace ClaimRules

namespace Machine

variable {book : RuleBook} {assertion : Value} {past : List Visit} {state next : State}

inductive Reached (book : RuleBook) (assertion : Value) : List Visit → State → Prop where
  | start : Reached book assertion [] (atRule book assertion 0 true)
  | step {past : List Visit} {state next : State} (h : Reached book assertion past state)
      (hs : (step book assertion state).traced.result = .ok (.running next)) :
      Reached book assertion (past ++ (step book assertion state).visits) next

structure Executes (book : RuleBook) (state : State) (v : Visit) : Prop where
  position : v.position = state.position
  statement : (book.statementsAt state.position.rule state.position.block)[
    state.position.statement]? = some v.statement
  context : v.context = state.entered.enterStatement state.position.statement

inductive Advance (book : RuleBook) (assertion : Value) (state : State) :
    List Visit → State → Prop where
  | pastBlock : Advance book assertion state [] ⟨state.position.nextBlock, state.entered⟩
  | nextStatement {v : Visit} (hv : Executes book state v)
      (ho : v.outcome = .ok .statementContinue) :
      Advance book assertion state [v] ⟨state.position.nextStatement, v.after⟩
  | nextBlock {v : Visit} (hv : Executes book state v) (ho : v.outcome = .ok .blockContinue) :
      Advance book assertion state [v] ⟨state.position.nextBlock, v.after⟩
  | nextRule {v : Visit} (hv : Executes book state v) (ho : v.outcome = .ok .ruleFail) :
      Advance book assertion state [v]
        (atRule book assertion (state.position.rule + 1) v.after.success)

/-- A step either executes nothing, and can then only go on with the next block, or it executes the
statement at the counter and follows its outcome. -/
theorem step_cases (book : RuleBook) (assertion : Value) (state : State) :
    ((step book assertion state).visits = [] ∧
      ∀ next, (step book assertion state).traced.result = .ok (.running next) →
        next = ⟨state.position.nextBlock, state.entered⟩) ∨
    ∃ v rule, Executes book state v ∧
      step book assertion state =
        v.statement.log book.formats v.position v.context >>=
          fun after => .lift (follow book assertion rule v.position after) := by
  rcases hr : book.rules[state.position.rule]? with _ | rule
  · rw [step_noRule hr]
    exact .inl ⟨rfl, fun next h => by cases h⟩
  rcases hb : rule.blocks with _ | blocks
  · rw [step_noBlocks hr hb]
    exact .inl ⟨rfl, fun next h => by cases h⟩
  rcases hk : blocks[state.position.block]? with _ | block
  · rw [step_noBlock hr hb hk]
    exact .inl ⟨rfl, fun next h => absurd h result_succeed_ne⟩
  rcases hs : block[state.position.statement]? with _ | s
  · rw [step_noStatement hr hb hk hs]
    refine .inl ⟨rfl, fun next h => ?_⟩
    cases h
    rfl
  · have hblock : book.statementsAt state.position.rule state.position.block = block := by
      simp only [RuleBook.statementsAt, blocksAt_eq hr hb, hk, Option.getD_some]
    refine .inr ⟨⟨state.position, s, state.entered.enterStatement state.position.statement⟩, rule,
      ⟨rfl, ?_, rfl⟩, step_statement hr hb hk hs⟩
    rw [hblock, hs]

theorem visits_log_bind {v : Visit} {rule : Rule}
    (h : step book assertion state = v.statement.log book.formats v.position v.context >>=
      fun after => .lift (follow book assertion rule v.position after)) :
    (step book assertion state).visits = [v] := by
  rw [h, Logged.visits_bind]
  split <;> rfl

theorem executes_of_visits {v : Visit} (h : (step book assertion state).visits = [v]) :
    Executes book state v := by
  obtain ⟨hv, -⟩ | ⟨w, rule, hw, hstep⟩ := step_cases book assertion state
  · rw [hv] at h
    cases h
  · rw [visits_log_bind hstep] at h
    cases h
    exact hw

theorem advance_of_step (h : (step book assertion state).traced.result = .ok (.running next)) :
    Advance book assertion state (step book assertion state).visits next := by
  obtain ⟨hv, hnext⟩ | ⟨v, rule, hv, hstep⟩ := step_cases book assertion state
  · rw [hv, hnext next h]
    exact .pastBlock
  · rw [visits_log_bind hstep]
    rw [hstep, Logged.traced_bind, Traced.result_bind] at h
    obtain ⟨⟨outcome, after⟩, hrun, hf⟩ := bind_eq_ok_iff.1 h
    have hex : v.statement.execute v.context = (.ok outcome, after) :=
      Statement.execute_of_run hrun
    have ho : v.outcome = .ok outcome := congrArg Prod.fst hex
    have ha : v.after = after := congrArg Prod.snd hex
    rw [← ha, hv.position] at hf
    cases outcome with
    | statementContinue =>
      cases hf
      exact .nextStatement hv ho
    | blockContinue =>
      cases hf
      exact .nextBlock hv ho
    | ruleFail =>
      cases hf
      exact .nextRule hv ho
    | ruleSuccess => exact absurd hf result_succeed_ne

theorem result_step_of_error {v : Visit} {e : Error}
    (hv : (step book assertion state).visits = [v]) (he : v.outcome = .error e) :
    (step book assertion state).traced.result =
      .error (.inStatement (book.formats.describeStatement v.after.bindings) v.statement.text e) := by
  obtain ⟨hn, -⟩ | ⟨w, rule, -, hstep⟩ := step_cases book assertion state
  · rw [hn] at hv
    cases hv
  · rw [visits_log_bind hstep] at hv
    cases hv
    have hex : v.statement.execute v.context = (.error e, v.after) := Prod.ext he rfl
    have hrun : (v.statement.run book.formats v.context).result = .error (.inStatement
        (book.formats.describeStatement v.after.bindings) v.statement.text e) := by
      rw [Statement.result_run, hex]
    rw [hstep, Logged.traced_bind, Traced.result_bind]
    exact congrArg (· >>= _) hrun

theorem Advance.position {visits : List Visit} (h : Advance book assertion state visits next) :
    (∀ v ∈ visits, v.position = state.position) ∧ state.position.rule ≤ next.position.rule := by
  cases h with
  | pastBlock => exact ⟨fun w hw => absurd hw List.not_mem_nil, Nat.le_refl _⟩
  | nextStatement hv _ =>
    exact ⟨fun w hw => by rw [List.mem_singleton.1 hw, hv.position], Nat.le_refl _⟩
  | nextBlock hv _ =>
    exact ⟨fun w hw => by rw [List.mem_singleton.1 hw, hv.position], Nat.le_refl _⟩
  | nextRule hv _ =>
    exact ⟨fun w hw => by rw [List.mem_singleton.1 hw, hv.position], Nat.le_succ _⟩

theorem rule_le_of_reached (h : Reached book assertion past state) :
    ∀ u ∈ past, u.position.rule ≤ state.position.rule := by
  induction h with
  | start =>
    intro u hu
    cases hu
  | step _ hs ih =>
    obtain ⟨hvisits, hle⟩ := (advance_of_step hs).position
    intro u hu
    rcases List.mem_append.1 hu with hu | hu
    · exact Nat.le_trans (ih u hu) hle
    · rwa [hvisits u hu]

theorem run_of_reached (h : Reached book assertion past state) :
    (run book assertion (atRule book assertion 0 true)).visits =
        past ++ (run book assertion state).visits ∧
      (run book assertion (atRule book assertion 0 true)).traced.result =
        (run book assertion state).traced.result := by
  induction h with
  | start => exact ⟨rfl, rfl⟩
  | step _ hs ih =>
    rw [ih.1, ih.2, run_eq, Logged.visits_bind, Logged.traced_bind, Traced.result_bind, hs,
      List.append_assoc]
    exact ⟨rfl, rfl⟩

theorem visits_split {more earlier later : List Visit} {v : Visit}
    (h : (step book assertion state).visits ++ more = earlier ++ v :: later) :
    (earlier = [] ∧ (step book assertion state).visits = [v]) ∨
      ∃ rest, earlier = (step book assertion state).visits ++ rest ∧ more = rest ++ v :: later := by
  obtain hv | ⟨w, -, hv⟩ : (step book assertion state).visits = [] ∨ _ := visits_step
  · rw [hv] at h ⊢
    exact .inr ⟨earlier, rfl, h⟩
  · rw [hv] at h ⊢
    rcases earlier with _ | ⟨u, us⟩
    · obtain ⟨rfl, -⟩ := List.cons.inj h
      exact .inl ⟨rfl, rfl⟩
    · obtain ⟨rfl, hm⟩ := List.cons.inj h
      exact .inr ⟨us, rfl, hm⟩

theorem eq_of_visits_step {earlier later : List Visit} {v : Visit}
    (h : (step book assertion state).visits = earlier ++ v :: later) :
    earlier = [] ∧ (step book assertion state).visits = [v] := by
  have happend : (step book assertion state).visits ++ [] = earlier ++ v :: later := by
    rw [List.append_nil, h]
  obtain hone | ⟨rest, -, hm⟩ := visits_split happend
  · exact hone
  · simp at hm

theorem exists_reached_of_step (h : Reached book assertion past state) {earlier later : List Visit}
    {v : Visit} (hv : (step book assertion state).visits = earlier ++ v :: later) :
    ∃ there, Reached book assertion (past ++ earlier) there ∧
      (step book assertion there).visits = [v] := by
  obtain ⟨rfl, hone⟩ := eq_of_visits_step hv
  exact ⟨state, by rwa [List.append_nil], hone⟩

theorem exists_reached_of_run (state : State) {past : List Visit}
    (h : Reached book assertion past state) {earlier later : List Visit} {v : Visit}
    (hv : (run book assertion state).visits = earlier ++ v :: later) :
    ∃ there, Reached book assertion (past ++ earlier) there ∧
      (step book assertion there).visits = [v] := by
  induction state using run.induct book assertion generalizing past earlier with
  | case1 state visits events next hstep ih =>
    have hvisits : (step book assertion state).visits = visits := by rw [hstep]
    have hnext : Reached book assertion (past ++ (step book assertion state).visits) next :=
      h.step (by rw [hstep])
    rw [visits_run_of_running hstep, ← hvisits] at hv
    obtain ⟨rfl, hone⟩ | ⟨rest, rfl, hm⟩ := visits_split hv
    · exact ⟨state, by rwa [List.append_nil], hone⟩
    · rw [← List.append_assoc]
      exact ih hnext hm
  | case2 state visits events claim hstep =>
    rw [visits_run_of_stopped hstep] at hv
    exact exists_reached_of_step h (by rw [hstep]; exact hv)
  | case3 state visits events e hstep =>
    rw [visits_run_of_error hstep] at hv
    exact exists_reached_of_step h (by rw [hstep]; exact hv)

end Machine

namespace RuleBook

variable {book : RuleBook} {assertion : Entries Value} {earlier later : List Visit} {v : Visit}

/-- Each execution in an evaluation takes place at a state that the evaluation comes to. -/
theorem exists_reached (h : (book.log assertion).visits = earlier ++ v :: later) :
    ∃ state, Machine.Reached book (.map assertion) earlier state ∧
      (Machine.step book (.map assertion) state).visits = [v] := by
  rw [visits_log] at h
  exact Machine.exists_reached_of_run _ .start h

theorem result_evaluate_of_reached {state : Machine.State}
    (h : Machine.Reached book (.map assertion) earlier state) :
    (book.evaluate (.map assertion)).result =
      (Machine.run book (.map assertion) state).traced.result := by
  rw [← (Machine.run_of_reached h).2, Machine.run_atRule book.rules 0 List.drop_zero true,
    ← traced_log]
  rfl

end RuleBook
end ClaimRules
