import ClaimRules.Proofs.Formats
import ClaimRules.Proofs.Reached

/-! Invariants of evaluations. What holds of the bindings that each rule starts with and is kept by every
statement of the rules holds wherever an evaluation comes to. -/

namespace ClaimRules

structure Invariant (rules : List Rule) (assertion : Value) (P : Bindings → Prop) : Prop where
  start : ∀ number name, P (Bindings.forRule number name assertion)
  enterBlock : ∀ {bindings} number, P bindings → P (bindings.enterBlock number)
  enterStatement : ∀ {bindings} number, P bindings → P (bindings.enterStatement number)
  execute : ∀ rule ∈ rules, ∀ s ∈ rule.statements, ∀ {ctx : Context}, P ctx.bindings →
    P (s.execute ctx).2.bindings

/-- The contexts of an evaluation: those in which rules start and end, those in which blocks have just
been entered, and those before and after each statement. -/
inductive RuleBook.Meets (book : RuleBook) (assertion : Entries Value) : Context → Prop where
  | state {past : List Visit} {state : Machine.State}
      (h : Machine.Reached book (.map assertion) past state) : Meets book assertion state.context
  | entered {past : List Visit} {state : Machine.State}
      (h : Machine.Reached book (.map assertion) past state) : Meets book assertion state.entered
  | before {v : Visit} (h : v ∈ (book.log assertion).visits) : Meets book assertion v.context
  | after {v : Visit} (h : v ∈ (book.log assertion).visits) : Meets book assertion v.after

theorem Machine.Executes.mem_statements {book : RuleBook} {state : State} {v : Visit}
    (h : Executes book state v) : ∃ rule ∈ book.rules, v.statement ∈ rule.statements := by
  have hs : (book.statementsAt _ _)[_]? = some v.statement := h.statement
  unfold RuleBook.statementsAt RuleBook.blocksAt at hs
  rcases hr : book.rules[state.position.rule]? with _ | rule
  · simp [hr] at hs
  simp only [hr, Option.bind_some] at hs
  rcases hb : (rule.blocks.getD [])[state.position.block]? with _ | block
  · simp [hb] at hs
  simp only [hb, Option.getD_some] at hs
  exact ⟨rule, List.mem_of_getElem? hr,
    List.mem_flatten.2 ⟨block, List.mem_of_getElem? hb, List.mem_of_getElem? hs⟩⟩

namespace Invariant

variable {rules : List Rule} {assertion : Value} {P : Bindings → Prop}

theorem run (h : Invariant rules assertion P) {rule : Rule} (hr : rule ∈ rules) {formats : Formats}
    {ctx after : Context} {outcome : Outcome} (hc : P ctx.bindings)
    (hrun : (rule.run formats ctx).result = .ok (outcome, after)) : P after.bindings := by
  have hl : Lockstep ⟨rules, [], formats⟩ ⟨rules, [], formats⟩ assertion assertion Eq
      (fun c d => c = d ∧ P c.bindings) rules :=
    { success := fun h => h.1 ▸ rfl
      start := fun _ _ _ _ => ⟨rfl, h.start _ _⟩
      enterBlock := fun _ hc => ⟨hc.1 ▸ rfl, h.enterBlock _ hc.2⟩
      enterStatement := fun _ hc => ⟨hc.1 ▸ rfl, h.enterStatement _ hc.2⟩
      run := by
        rintro rule hr s hs c _ ⟨rfl, hc⟩
        rcases hrun : (s.run formats c).result with e | ⟨outcome, after⟩
        · exact .error rfl
        · have hafter := h.execute rule hr s hs hc
          rw [Statement.execute_of_run hrun] at hafter
          exact .ok ⟨rfl, rfl, hafter⟩
      noBlocks := rfl
      extractClaim := by
        rintro _ _ c _ ⟨rfl, -⟩
        exact .refl (fun _ => rfl) (fun _ => rfl) _ }
  have hboth := hl.rule hr ⟨rfl, hc⟩
  rw [hrun] at hboth
  cases hboth with
  | ok hafter => exact hafter.2.2

theorem firstSuccess (h : Invariant rules assertion P) {rest : List Rule}
    (hsub : ∀ rule ∈ rest, rule ∈ rules) {formats : Formats} {number : Nat} {success : Bool}
    {winner : Success}
    (hw : (Rule.firstSuccess formats assertion number success rest).result = .ok (some winner)) :
    winner.rule ∈ rules ∧ P winner.bindings := by
  induction rest generalizing number success with
  | nil => cases hw
  | cons rule rest ih =>
    unfold Rule.firstSuccess at hw
    rw [Traced.result_bind] at hw
    obtain ⟨⟨outcome, ctx⟩, hrun, hw⟩ := bind_eq_ok_iff.1 hw
    have hrule : rule ∈ rules := hsub rule List.mem_cons_self
    have hctx : P ctx.bindings := h.run hrule (h.start _ _) hrun
    cases outcome with
    | ruleSuccess =>
      cases hw
      exact ⟨hrule, hctx⟩
    | _ => exact ih (fun rule hr => hsub rule (List.mem_cons_of_mem _ hr)) hw

theorem winner {entries : Entries Value} (h : Invariant rules (.map entries) P) {formats : Formats}
    {winner : Success}
    (hw : (Rule.winner formats rules (.map entries)).result = .ok (some winner)) :
    winner.rule ∈ rules ∧ P winner.bindings :=
  h.firstSuccess (fun _ hr => hr) hw

variable {book : RuleBook} {past : List Visit} {state : Machine.State}

theorem entered (h : Invariant rules assertion P) (hs : P state.context.bindings) :
    P state.entered.bindings := by
  unfold Machine.State.entered
  split
  · exact h.enterBlock _ hs
  · exact hs

theorem context (h : Invariant book.rules assertion P) (hs : P state.context.bindings) {v : Visit}
    (hv : Machine.Executes book state v) : P v.context.bindings := by
  rw [hv.context]
  exact h.enterStatement _ (h.entered hs)

theorem after (h : Invariant book.rules assertion P) (hs : P state.context.bindings) {v : Visit}
    (hv : Machine.Executes book state v) : P v.after.bindings := by
  obtain ⟨rule, hr, hmem⟩ := hv.mem_statements
  exact h.execute rule hr v.statement hmem (h.context hs hv)

theorem reached (h : Invariant book.rules assertion P)
    (hr : Machine.Reached book assertion past state) : P state.context.bindings := by
  induction hr with
  | start => exact h.start _ _
  | @step past state next _ hs ih =>
    have hadvance := Machine.advance_of_step hs
    generalize (Machine.step book assertion state).visits = visits at hadvance
    cases hadvance with
    | pastBlock => exact h.entered ih
    | nextStatement hv _ => exact h.after ih hv
    | nextBlock hv _ => exact h.after ih hv
    | nextRule hv _ => exact h.start _ _

theorem meets {entries : Entries Value} (h : Invariant book.rules (.map entries) P) {ctx : Context}
    (hm : book.Meets entries ctx) : P ctx.bindings := by
  have hvisit {v : Visit} (hv : v ∈ (book.log entries).visits) :
      P v.context.bindings ∧ P v.after.bindings := by
    obtain ⟨earlier, later, hsplit⟩ := List.append_of_mem hv
    obtain ⟨state, hr, hs⟩ := RuleBook.exists_reached hsplit
    have hexec := Machine.executes_of_visits hs
    exact ⟨h.context (h.reached hr) hexec, h.after (h.reached hr) hexec⟩
  cases hm with
  | state hr => exact h.reached hr
  | entered hr => exact h.entered (h.reached hr)
  | before hv => exact (hvisit hv).1
  | after hv => exact (hvisit hv).2

end Invariant
end ClaimRules
