import ClaimRules.Proofs.Invariants
import ClaimRules.Proofs.Operands
import ClaimRules.Proofs.WriteFrame

/-! The reserved variables, in which an evaluation keeps where it stands. Programs may bind them anew but
can never unbind them, so that the initial names of rules and statements can always be made. -/

namespace ClaimRules

namespace Bindings

def Binds (bindings : Bindings) (names : List String) : Prop :=
  ∀ name ∈ names, ∃ value, Entries.get? bindings name = some value

def ruleNames : List String := [ruleNumberName, ruleNameName, assertionName]

def blockNames : List String := [blockNumberName, blockNameName]

variable {bindings : Bindings} {names : List String}

theorem Binds.append {others : List String} (h : bindings.Binds names)
    (ho : bindings.Binds others) : bindings.Binds (names ++ others) := by
  intro name hn
  rcases List.mem_append.1 hn with hn | hn
  · exact h name hn
  · exact ho name hn

theorem get?_bind (bindings : Bindings) (name : String) (value : Value) (other : String) :
    Entries.get? (bindings.bind name value) other =
      if other = name then some value else Entries.get? bindings other := by
  split
  · next h =>
    subst h
    exact Entries.get?_insert_self ..
  · next h => exact Entries.get?_insert_of_ne h ..

theorem Binds.bind (h : bindings.Binds names) (name : String) (value : Value) :
    (bindings.bind name value).Binds names := by
  intro other ho
  rw [get?_bind]
  split
  · exact ⟨value, rfl⟩
  · exact h other ho

theorem bindAll_induction {P : Bindings → Prop}
    (hbind : ∀ bindings name value, P bindings → P (bindings.bind name value)) (h : P bindings)
    (writes : List (String × Value)) : P (bindings.bindAll writes) := by
  induction writes generalizing bindings with
  | nil => exact h
  | cons write rest ih => exact ih (hbind bindings write.1 write.2 h)

theorem binds_forRule (number : Nat) (name : String) (assertion : Value) :
    (forRule number name assertion).Binds ruleNames := by
  intro n hn
  simp only [ruleNames, List.mem_cons, List.not_mem_nil, or_false] at hn
  rcases hn with rfl | rfl | rfl
  · exact ⟨_, rfl⟩
  · exact ⟨_, rfl⟩
  · exact ⟨_, rfl⟩

theorem get?_enterBlock (bindings : Bindings) (number : Nat) (name : String) :
    Entries.get? (bindings.enterBlock number) name =
      if name = blockNameName then some (.string "")
      else if name = blockNumberName then some (Bindings.number number)
      else Entries.get? bindings name := by
  rw [enterBlock, get?_bind, get?_bind]

theorem get?_enterStatement (bindings : Bindings) (number : Nat) (name : String) :
    Entries.get? (bindings.enterStatement number) name =
      if name = statementNumberName then some (Bindings.number number)
      else Entries.get? bindings name := get?_bind ..

theorem binds_enterBlock (bindings : Bindings) (number : Nat) :
    (bindings.enterBlock number).Binds blockNames := by
  intro n hn
  simp only [blockNames, List.mem_cons, List.not_mem_nil, or_false] at hn
  rw [get?_enterBlock]
  rcases hn with rfl | rfl
  · exact ⟨_, rfl⟩
  · exact ⟨_, rfl⟩

theorem Binds.enterBlock (h : bindings.Binds names) (number : Nat) :
    (bindings.enterBlock number).Binds names := (h.bind _ _).bind _ _

theorem binds_enterStatement (bindings : Bindings) (number : Nat) :
    (bindings.enterStatement number).Binds [statementNumberName] := by
  intro n hn
  rw [List.mem_singleton.1 hn, get?_enterStatement, if_pos rfl]
  exact ⟨_, rfl⟩

end Bindings

namespace Statement

def destination? (s : Statement) : Option Reference :=
  match s.verb with
  | .ok verb => if verb.role = .change then (s.target verb 1).toOption else none
  | .error _ => none

theorem exists_bindAll_execute (s : Statement) (ctx : Context) :
    ∃ writes, (s.execute ctx).2.bindings = ctx.bindings.bindAll writes ∧
      ∀ name ∈ writes.map Prod.fst, (∃ r, s.destination? = some r ∧ r.name = name) ∨
        name = Bindings.regexpArrayName ∨ name = Bindings.regexpMapName := by
  unfold execute
  rcases he : s.effect ctx with e | effect
  · exact ⟨[], rfl, fun name hn => by cases hn⟩
  simp only [Effect.apply_eq]
  rcases hw : effect.writes ctx.bindings with e | writes
  · exact ⟨[], rfl, fun name hn => by cases hn⟩
  refine ⟨writes, rfl, ?_⟩
  rw [Effect.names_of_writes hw]
  obtain ⟨verb, hv, he⟩ := effect_eq_ok_iff.1 he
  intro name hn
  cases hr : effect.role with
  | change =>
    obtain ⟨r, ht, hwritten⟩ := Effect.target?_of_change hr
    rw [hwritten, List.mem_singleton] at hn
    refine .inl ⟨r, ?_, hn.symm⟩
    rw [role_of_verbEffect he] at hr
    simp only [destination?, hv, hr, if_true, target_of_verbEffect he ht, Except.toOption]
  | search =>
    rw [Effect.written_of_search hr] at hn
    simpa using Or.inr hn
  | test =>
    rw [Effect.written_of_passive (.inl hr)] at hn
    cases hn
  | control =>
    rw [Effect.written_of_passive (.inr hr)] at hn
    cases hn

theorem binds_execute {ctx : Context} {names : List String} (h : ctx.bindings.Binds names)
    (s : Statement) : (s.execute ctx).2.bindings.Binds names := by
  obtain ⟨writes, hw, -⟩ := s.exists_bindAll_execute ctx
  rw [hw]
  exact Bindings.bindAll_induction (P := fun b => b.Binds names)
    (fun _ name value hb => Bindings.Binds.bind hb name value) h writes

end Statement

namespace Formats

variable {bindings : Bindings}

theorem exists_substitute_of_binds {text : String} {names : List String}
    (ht : ∀ r ∈ Template.references text, r.index = none ∧ r.name ∈ names)
    (h : bindings.Binds names) : ∃ filled, Template.substitute text bindings = .ok filled := by
  refine Template.substitute_isOk_iff.2 fun r hr => ?_
  obtain ⟨hi, hn⟩ := ht r hr
  obtain ⟨value, hv⟩ := h r.name hn
  exact ⟨value, by simp only [Reference.resolve, hv, hi]⟩

theorem exists_ruleId (h : bindings.Binds Bindings.ruleNames) :
    ∃ id, initial.ruleId bindings = .ok id := by
  refine exists_substitute_of_binds ?_ h
  decide +kernel

theorem exists_statementId
    (h : bindings.Binds (Bindings.ruleNames ++ Bindings.blockNames ++ [Bindings.statementNumberName])) :
    ∃ id, initial.statementId bindings = .ok id := by
  refine exists_substitute_of_binds ?_ h
  decide +kernel

end Formats

namespace Machine

variable {book : RuleBook} {assertion : Value} {past : List Visit} {state : State}

/-- What is bound at a state: the rule from its start on, the block once one has been entered, and the
statement once one has been executed. -/
structure Bookkept (past : List Visit) (state : State) : Prop where
  rule : state.context.bindings.Binds Bindings.ruleNames
  block : state.position.block ≠ 0 ∨ state.position.statement ≠ 0 →
    state.context.bindings.Binds Bindings.blockNames
  statement : (∃ u ∈ past, u.position.rule = state.position.rule) →
    state.context.bindings.Binds [Bindings.statementNumberName]

theorem State.binds_entered {names : List String} (h : state.context.bindings.Binds names) :
    state.entered.bindings.Binds names := by
  unfold entered
  split
  · exact h.enterBlock _
  · exact h

theorem Bookkept.entered (h : Bookkept past state) :
    state.entered.bindings.Binds (Bindings.ruleNames ++ Bindings.blockNames) := by
  refine (State.binds_entered h.rule).append ?_
  unfold State.entered
  split
  · exact Bindings.binds_enterBlock _ _
  · next hs => exact h.block (.inr hs)

theorem Bookkept.context (h : Bookkept past state) {v : Visit} (hv : Executes book state v) :
    v.context.bindings.Binds
      (Bindings.ruleNames ++ Bindings.blockNames ++ [Bindings.statementNumberName]) := by
  rw [hv.context]
  exact (h.entered.bind _ _).append (Bindings.binds_enterStatement _ _)

theorem Bookkept.after (h : Bookkept past state) {v : Visit} (hv : Executes book state v) :
    v.after.bindings.Binds
      (Bindings.ruleNames ++ Bindings.blockNames ++ [Bindings.statementNumberName]) :=
  Statement.binds_execute (h.context hv) v.statement

/-- After a statement everything is bound, wherever in the rule the evaluation goes on. -/
theorem Bookkept.continue (h : Bookkept past state) {v : Visit} (hv : Executes book state v)
    (past : List Visit) (position : Position) : Bookkept past ⟨position, v.after⟩ where
  rule name hn := h.after hv name (by simp [hn])
  block _ name hn := h.after hv name (by simp [hn])
  statement _ name hn := h.after hv name (by simp [hn])

theorem bookkept_of_reached (h : Reached book assertion past state) : Bookkept past state := by
  induction h with
  | start =>
    exact
      { rule := Bindings.binds_forRule _ _ _
        block := fun hb => absurd rfl (hb.elim id id)
        statement := fun ⟨u, hu, _⟩ => absurd hu List.not_mem_nil }
  | @step past state next h hs ih =>
    have hle := rule_le_of_reached h
    have hadvance := advance_of_step hs
    generalize (step book assertion state).visits = visits at hadvance ⊢
    cases hadvance with
    | pastBlock =>
      refine ⟨State.binds_entered ih.rule, fun _ name hn => ih.entered name (by simp [hn]), ?_⟩
      intro hu
      rw [List.append_nil] at hu
      exact State.binds_entered (ih.statement hu)
    | nextStatement hv _ => exact ih.continue hv _ _
    | nextBlock hv _ => exact ih.continue hv _ _
    | @nextRule v hv _ =>
      refine ⟨Bindings.binds_forRule _ _ _, fun hb => absurd rfl (hb.elim id id), ?_⟩
      -- nothing of the new rule has been executed
      rintro ⟨u, hu, hr⟩
      exfalso
      rcases List.mem_append.1 hu with hu | hu
      · have := hle u hu
        simp only [atRule] at hr
        omega
      · rw [List.mem_singleton.1 hu, hv.position] at hr
        simp only [atRule] at hr
        omega

end Machine

/-- What holds of all bindings that a rule may start with and is kept whenever a variable is bound is an
invariant, whatever the rules are. -/
theorem Invariant.of_bind {P : Bindings → Prop} {assertion : Value}
    (hstart : ∀ number name, P (Bindings.forRule number name assertion))
    (hbind : ∀ bindings name value, P bindings → P (bindings.bind name value))
    (rules : List Rule) : Invariant rules assertion P where
  start := hstart
  enterBlock _ h := hbind _ _ _ (hbind _ _ _ h)
  enterStatement _ h := hbind _ _ _ h
  execute _ _ s _ ctx h := by
    obtain ⟨writes, hw, -⟩ := s.exists_bindAll_execute ctx
    exact hw ▸ Bindings.bindAll_induction hbind h writes

namespace RuleBook

theorem binds_winner {formats : Formats} {rules : List Rule} {assertion : Entries Value}
    {winner : Success}
    (hw : (Rule.winner formats rules (.map assertion)).result = .ok (some winner)) :
    winner.bindings.Binds Bindings.ruleNames := by
  have hkept : Invariant rules (.map assertion) fun bindings => bindings.Binds Bindings.ruleNames :=
    .of_bind (fun number name => Bindings.binds_forRule number name _)
      (fun _ name value h => h.bind name value) rules
  exact (hkept.winner hw).2

/-- Whatever a program assigns, the reserved variables stay bound: those of the rule at every state of
an evaluation, those of the block once one is entered, and that of the statement once one is executed.
So the initial formats have a name for every statement that is executed, and for the rule that
succeeds. -/
theorem evaluate_reserved_bound (book : RuleBook) (assertion : Entries Value) :
    (∀ past state, Machine.Reached book (.map assertion) past state →
      Machine.Bookkept past state ∧
        state.entered.bindings.Binds (Bindings.ruleNames ++ Bindings.blockNames)) ∧
    (∀ v ∈ (book.log assertion).visits, ∀ ctx, ctx = v.context ∨ ctx = v.after →
      ctx.bindings.Binds
          (Bindings.ruleNames ++ Bindings.blockNames ++ [Bindings.statementNumberName]) ∧
        ∃ id, Formats.initial.statementId ctx.bindings = .ok id) ∧
    ∀ winner, (Rule.winner book.formats book.rules (.map assertion)).result = .ok (some winner) →
      winner.bindings.Binds Bindings.ruleNames ∧
        ∃ id, Formats.initial.ruleId winner.bindings = .ok id := by
  refine ⟨fun past state h => ?_, fun v hv ctx hctx => ?_, fun winner hw => ?_⟩
  · have hkept := Machine.bookkept_of_reached h
    exact ⟨hkept, hkept.entered⟩
  · obtain ⟨earlier, later, hsplit⟩ := List.append_of_mem hv
    obtain ⟨state, hr, hs⟩ := exists_reached hsplit
    have hkept := Machine.bookkept_of_reached hr
    have hexec := Machine.executes_of_visits hs
    have hbinds : ctx.bindings.Binds
        (Bindings.ruleNames ++ Bindings.blockNames ++ [Bindings.statementNumberName]) := by
      rcases hctx with rfl | rfl
      · exact hkept.context hexec
      · exact hkept.after hexec
    exact ⟨hbinds, Formats.exists_statementId hbinds⟩
  · have hbinds := binds_winner hw
    exact ⟨hbinds, Formats.exists_ruleId hbinds⟩

theorem evaluate_reserved_bound_set :
    let set : Statement := ⟨[.string "set", .string "$rule_number", .array []]⟩
    let rule : Rule := ⟨none, some [[set]], some [], none⟩
    let book : RuleBook := ⟨[rule], [], .initial⟩
    let entered : Context := ((rule.start 0 (.map []) true).enterBlock 0).enterStatement 0
    let left : Bindings := (set.execute entered).2.bindings
    (⟨⟨0, 0, 0⟩, set, entered⟩ : Visit) ∈ (book.log []).visits ∧
      Entries.get? left Bindings.ruleNumberName = some (.array []) ∧
      (∃ id, Formats.initial.statementId entered.bindings = .ok id) ∧
      (∃ id, Formats.initial.statementId left = .ok id) ∧
      ∃ id, Formats.initial.ruleId left = .ok id := by
  intro set rule book entered left
  obtain ⟨-, hvisits, hwinner⟩ := evaluate_reserved_bound book []
  have hv : (⟨⟨0, 0, 0⟩, set, entered⟩ : Visit) ∈ (book.log []).visits := List.mem_cons_self
  exact ⟨hv, rfl, (hvisits _ hv _ (.inl rfl)).2, (hvisits _ hv _ (.inr rfl)).2,
    (hwinner ⟨0, rule, left⟩ rfl).2⟩

end RuleBook
end ClaimRules
