import ClaimRules.Proofs.ControlFlow
import ClaimRules.Proofs.Writes

/-! The success flag in the course of an evaluation. It is set at first; each change of a variable sets
it, each test makes it the answer, and neither control nor the ends of blocks and rules touch it. -/

namespace ClaimRules

namespace Statement

def answer? (s : Statement) (verb : Verb) (bindings : Bindings) : Option Bool :=
  let contained : Option Bool := do
    let member ← (s.value verb 1 bindings).toOption
    let collection ← (s.value verb 2 bindings).toOption
    contains? collection member
  match verb with
  | .member => contained
  | .notMember => contained.map not
  | .compare => do
    let left ← (s.value verb 1 bindings).toOption
    let operator ← (s.string verb 2 bindings).toOption
    let right ← (s.value verb 3 bindings).toOption
    (compareValues left operator right).toOption
  | .regexp => do
    let text ← (s.string verb 1 bindings).toOption
    let pattern ← (s.string verb 2 bindings).toOption
    let re ← (compilePattern verb pattern).toOption
    return (re.firstMatch? text.toList).isSome
  | _ => none

variable {s : Statement} {verb : Verb} {ctx : Context} {effect : Effect}

theorem flag?_searchEffect (re : Regex) (text : List Char) :
    (searchEffect re text).flag? = some (re.firstMatch? text).isSome := by
  unfold searchEffect
  rcases re.firstMatch? text with _ | m <;> rfl

theorem answer?_of_verbEffect (h : s.verbEffect verb ctx = .ok effect)
    (hr : verb.role = .test ∨ verb.role = .search) :
    s.answer? verb ctx.bindings = effect.flag? := by
  cases verb with
  | member =>
    obtain ⟨member, hm, collection, hc, found, hf, rfl⟩ := membership_iff.1 h
    simp [answer?, hm, hc, hf, Except.toOption, Effect.flag?]
  | notMember =>
    obtain ⟨member, hm, collection, hc, found, hf, rfl⟩ := membership_iff.1 h
    simp [answer?, hm, hc, hf, Except.toOption, Effect.flag?]
  | compare =>
    obtain ⟨left, hl, operator, ho, right, hr, -, result, hres, rfl⟩ := compare_iff.1 h
    simp [answer?, hl, ho, hr, hres, Except.toOption, Effect.flag?]
  | regexp =>
    obtain ⟨text, ht, pattern, hp, re, hre, rfl⟩ := regexp_iff.1 h
    rw [flag?_searchEffect]
    simp [answer?, ht, hp, hre, Except.toOption]
  | _ => rcases hr with hr | hr <;> cases hr

end Statement

namespace Effect

theorem flag?_of_change {effect : Effect} (h : effect.role = .change) :
    effect.flag? = some true := by
  cases effect with
  | store target value => rfl
  | push target item => rfl
  | _ => cases h

theorem exists_flag?_of_test {effect : Effect} (h : effect.role = .test ∨ effect.role = .search) :
    ∃ result, effect.flag? = some result := by
  cases effect with
  | test result => exact ⟨result, rfl⟩
  | search matched groups named => exact ⟨matched, rfl⟩
  | _ => rcases h with h | h <;> cases h

theorem flag?_of_control {effect : Effect} (h : effect.role = .control) :
    effect.flag? = none := by
  cases effect with
  | flow outcome => rfl
  | _ => cases h

end Effect

namespace Visit

def after (visit : Visit) : Context := (visit.statement.execute visit.context).2

def Has (role : Role) (visit : Visit) : Prop :=
  ∃ verb, visit.statement.verb = .ok verb ∧ verb.role = role

def answer? (visit : Visit) : Option Bool :=
  visit.statement.verb.toOption.bind fun verb =>
    visit.statement.answer? verb visit.context.bindings

/-- The success flag after executions: it is set unless one of them has to do with it, and of those the
last one decides, a change by setting it and a test by its answer. -/
inductive FlagAfter : List Visit → Bool → Prop where
  | start {visits : List Visit} (h : ∀ u ∈ visits, u.Has .control) : FlagAfter visits true
  | change {before between : List Visit} {w : Visit} (hw : w.Has .change)
      (h : ∀ u ∈ between, u.Has .control) : FlagAfter (before ++ w :: between) true
  | test {before between : List Visit} {w : Visit} {flag : Bool}
      (hw : w.Has .test ∨ w.Has .search) (ha : w.answer? = some flag)
      (h : ∀ u ∈ between, u.Has .control) : FlagAfter (before ++ w :: between) flag

variable {visit : Visit} {visits : List Visit} {flag : Bool}

theorem FlagAfter.control (h : FlagAfter visits flag) (hv : visit.Has .control) :
    FlagAfter (visits ++ [visit]) flag := by
  have happ {us : List Visit} (hu : ∀ u ∈ us, u.Has .control) :
      ∀ u ∈ us ++ [visit], u.Has .control := by
    intro u hm
    rcases List.mem_append.1 hm with hm | hm
    · exact hu u hm
    · rwa [List.mem_singleton.1 hm]
  cases h with
  | start h => exact .start (happ h)
  | change hw h =>
    rw [List.append_assoc, List.cons_append]
    exact .change hw (happ h)
  | test hw ha h =>
    rw [List.append_assoc, List.cons_append]
    exact .test hw ha (happ h)

theorem FlagAfter.step (h : FlagAfter visits visit.context.success) {outcome : Outcome}
    (ho : visit.outcome = .ok outcome) : FlagAfter (visits ++ [visit]) visit.after.success := by
  have hex : visit.statement.execute visit.context = (.ok outcome, visit.after) :=
    Prod.ext ho rfl
  obtain ⟨effect, writes, he, -, -, ha⟩ := Statement.execute_eq_ok_iff.1 hex
  obtain ⟨verb, hv, he⟩ := Statement.effect_eq_ok_iff.1 he
  have hrole : effect.role = verb.role := Statement.role_of_verbEffect he
  have hflag : visit.after.success = effect.flag?.getD visit.context.success := by rw [← ha]
  have htest (hr : verb.role = .test ∨ verb.role = .search) :
      FlagAfter (visits ++ [visit]) visit.after.success := by
    obtain ⟨result, hres⟩ := Effect.exists_flag?_of_test (hrole ▸ hr)
    have hanswer : visit.answer? = some result := by
      simp only [Visit.answer?, hv, Except.toOption, Option.bind_some]
      rw [Statement.answer?_of_verbEffect he hr, hres]
    rw [hflag, hres]
    exact .test (hr.imp (fun hr => ⟨verb, hv, hr⟩) fun hr => ⟨verb, hv, hr⟩) hanswer (by simp)
  cases hr : verb.role with
  | change =>
    rw [hflag, Effect.flag?_of_change (hrole.trans hr)]
    exact .change ⟨verb, hv, hr⟩ (by simp)
  | test => exact htest (.inl hr)
  | search => exact htest (.inr hr)
  | control =>
    rw [hflag, Effect.flag?_of_control (hrole.trans hr)]
    exact h.control ⟨verb, hv, hr⟩

end Visit

namespace Machine

variable {book : RuleBook} {assertion : Value} {state : State}

theorem State.success_entered (state : State) : state.entered.success = state.context.success := by
  unfold entered
  split <;> rfl

theorem success_follow {rule : Rule} {p : Position} {outcome : Outcome} {ctx : Context}
    {next : State}
    (h : (follow book assertion rule p (outcome, ctx)).result = .ok (.running next)) :
    next.context.success = ctx.success := by
  cases outcome with
  | ruleSuccess => exact absurd h result_succeed_ne
  | _ =>
    cases h
    rfl

theorem success_step (book : RuleBook) (assertion : Value) (state : State) :
    ((step book assertion state).visits = [] ∧
      ∀ next, (step book assertion state).traced.result = .ok (.running next) →
        next.context.success = state.context.success) ∨
    ∃ v : Visit, (step book assertion state).visits = [v] ∧
      v.context.success = state.context.success ∧
        ∀ next, (step book assertion state).traced.result = .ok (.running next) →
          (∃ outcome, v.outcome = .ok outcome) ∧ next.context.success = v.after.success := by
  rcases hr : book.rules[state.position.rule]? with _ | rule
  · rw [step_noRule hr]
    exact .inl ⟨rfl, fun next h => by cases h⟩
  rcases hb : rule.blocks with _ | blocks
  · rw [step_noBlocks hr hb]
    exact .inl ⟨rfl, fun next h => by cases h⟩
  rcases hk : blocks[state.position.block]? with _ | block
  · rw [step_noBlock hr hb hk]
    exact .inl ⟨rfl, fun next h => absurd h result_succeed_ne⟩
  rcases hs : block[state.position.statement]? with _ | s
  · rw [step_noStatement hr hb hk hs]
    refine .inl ⟨rfl, fun next h => ?_⟩
    cases h
    exact state.success_entered
  · let ctx : Context := state.entered.enterStatement state.position.statement
    refine .inr ⟨⟨state.position, s, ctx⟩, ?_, state.success_entered, fun next h => ?_⟩
    · rw [step_statement hr hb hk hs, Logged.visits_bind]
      split <;> rfl
    · rw [step_statement hr hb hk hs, Logged.traced_bind, Traced.result_bind] at h
      obtain ⟨⟨outcome, after⟩, hrun, hf⟩ := bind_eq_ok_iff.1 h
      have hex : s.execute ctx = (.ok outcome, after) := Statement.execute_of_run hrun
      refine ⟨⟨outcome, congrArg Prod.fst hex⟩, ?_⟩
      rw [success_follow hf, Visit.after, hex]

theorem flagAfter_step {past earlier later : List Visit} {v : Visit}
    (hpast : Visit.FlagAfter past state.context.success)
    (h : (step book assertion state).visits = earlier ++ v :: later) :
    Visit.FlagAfter (past ++ earlier) v.context.success := by
  obtain ⟨hv, -⟩ | ⟨w, hv, hw, -⟩ := success_step book assertion state
  · rw [hv] at h
    simp at h
  · rw [hv] at h
    obtain ⟨rfl, hvw, -⟩ : earlier = [] ∧ w = v ∧ later = [] := by
      rcases earlier with _ | ⟨u, us⟩ <;> simp_all
    rw [List.append_nil, ← hvw, hw]
    exact hpast

/-- Wherever a run executes a statement, the flag is the one that all executions before it have left,
those before the run included. -/
theorem flagAfter_run (state : State) (past : List Visit)
    (hpast : Visit.FlagAfter past state.context.success) {earlier later : List Visit} {v : Visit}
    (h : (run book assertion state).visits = earlier ++ v :: later) :
    Visit.FlagAfter (past ++ earlier) v.context.success := by
  induction state using run.induct book assertion generalizing past earlier with
  | case1 state visits events next hstep ih =>
    rw [visits_run_of_running hstep] at h
    have hs := success_step book assertion state
    rw [hstep] at hs
    obtain ⟨rfl, hnext⟩ | ⟨w, rfl, hw, hnext⟩ := hs
    · rw [← hnext next rfl] at hpast
      exact ih past hpast h
    · obtain ⟨⟨outcome, ho⟩, hn⟩ := hnext next rfl
      rcases earlier with _ | ⟨u, us⟩
      · obtain ⟨rfl, -⟩ := List.cons.inj h
        rw [List.append_nil, hw]
        exact hpast
      · obtain ⟨rfl, hrest⟩ := List.cons.inj h
        rw [← hw] at hpast
        have hmore := hpast.step ho
        rw [← hn] at hmore
        rw [List.append_cons]
        exact ih (past ++ [w]) hmore hrest
  | case2 state visits events claim hstep =>
    rw [visits_run_of_stopped hstep] at h
    have hv : (step book assertion state).visits = earlier ++ v :: later := by
      rw [hstep]
      exact h
    exact flagAfter_step hpast hv
  | case3 state visits events e hstep =>
    rw [visits_run_of_error hstep] at h
    have hv : (step book assertion state).visits = earlier ++ v :: later := by
      rw [hstep]
      exact h
    exact flagAfter_step hpast hv

end Machine

namespace RuleBook

theorem visits_log (book : RuleBook) (assertion : Entries Value) :
    (book.log assertion).visits =
      (Machine.run book (.map assertion) (Machine.atRule book (.map assertion) 0 true)).visits := by
  have hrun : Machine.run book (.map assertion) (Machine.atRule book (.map assertion) 0 true) =
      book.logFrom (.map assertion) 0 true book.rules :=
    Machine.run_atRule book.rules 0 List.drop_zero true
  rw [hrun]
  rfl

/-- Whenever a statement starts in an evaluation, the success flag is set if only control has been
executed before, over all rules; otherwise the last statement before that is no control decides: if it
was a change the flag is set, and if it was a test the flag is its answer. -/
theorem log_flagAfter (book : RuleBook) (assertion : Entries Value) {earlier later : List Visit}
    {v : Visit} (h : (book.log assertion).visits = earlier ++ v :: later) :
    (book.log assertion).traced = book.evaluate (.map assertion) ∧
      Visit.FlagAfter earlier v.context.success := by
  refine ⟨book.traced_log assertion, ?_⟩
  rw [visits_log] at h
  exact Machine.flagAfter_run _ [] (.start fun u hu => by cases hu) h

theorem log_flagAfter_unset :
    let compare : Statement := ⟨[.string "compare", .integer 1, .string "==", .integer 2]⟩
    let fail : Statement := ⟨[.string "exit", .string "rule_fails", .string "always"]⟩
    let skip : Statement := ⟨[.string "continue", .string "if_not_success"]⟩
    let set : Statement := ⟨[.string "set", .string "$x", .integer 1]⟩
    let failing : Rule := ⟨none, some [[compare, fail]], none, none⟩
    let matching : Rule := ⟨none, some [[skip, set], [set]], some [], none⟩
    let book : RuleBook := ⟨[failing, matching], [], .initial⟩
    let c₁ : Context := ((failing.start 0 (.map []) true).enterBlock 0).enterStatement 0
    let c₂ : Context := Context.enterStatement ⟨c₁.bindings, false⟩ 1
    let c₃ : Context := ((matching.start 1 (.map []) false).enterBlock 0).enterStatement 0
    let c₄ : Context := (c₃.enterBlock 1).enterStatement 0
    let earlier : List Visit :=
      [⟨⟨0, 0, 0⟩, compare, c₁⟩, ⟨⟨0, 0, 1⟩, fail, c₂⟩, ⟨⟨1, 0, 0⟩, skip, c₃⟩]
    (book.log []).visits = earlier ++ [⟨⟨1, 1, 0⟩, set, c₄⟩] ∧ Visit.FlagAfter earlier false := by
  intro compare fail skip set failing matching book c₁ c₂ c₃ c₄ earlier
  have h : (book.log []).visits = earlier ++ [⟨⟨1, 1, 0⟩, set, c₄⟩] := rfl
  exact ⟨h, (log_flagAfter book [] h).2⟩

end RuleBook
end ClaimRules
