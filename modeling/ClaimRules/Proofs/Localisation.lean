import ClaimRules.Proofs.Atomicity
import ClaimRules.Proofs.Causes
import ClaimRules.Proofs.Reserved

/-! Where an evaluation fails. Its error names the statement that has failed, and under the initial
formats the name tells the position, whatever the program has assigned to the reserved variables before;
only a program that assigns to them can change the rest of the name. -/

namespace ClaimRules

namespace Bindings

def numeral (n : Nat) : String := (number n).splice

theorem numeral_eq {n : Nat} (h : n < signedLimit) : numeral n = toString n := by
  have hn : (Int64.ofNat n).toInt = n := Int64.toInt_ofNat_of_lt h
  have hneg : ¬((n : Int) < 0) := by omega
  have hs : numeral n = String.ofList (Value.spellInt (Int64.ofNat n).toInt) := rfl
  rw [hs, hn, Value.spellInt, if_neg hneg]
  rfl

end Bindings

namespace Template

variable {ε : Type} {find : Reference → Except ε String}

def plain (text : String) : List Piece := text.toList.map fun c => .plain [c]

theorem fillPieces_plain (text : String) (rest : List Piece) :
    fillPieces find (plain text ++ rest) = (fillPieces find rest).map (text.toList ++ ·) := by
  unfold plain
  induction text.toList with
  | nil =>
    change fillPieces find rest = _
    rcases fillPieces find rest with e | chars <;> rfl
  | cons c cs ih =>
    rw [List.map_cons, List.cons_append, fillPieces, ih]
    rcases fillPieces find rest with e | chars <;> rfl

theorem fillPieces_reference {r : Reference} {found : String} (h : find r = .ok found)
    (chars : List Char) (rest : List Piece) :
    fillPieces find (.reference r chars :: rest) =
      (fillPieces find rest).map (found.toList ++ ·) := by
  rw [fillPieces, h]
  rcases fillPieces find rest with e | text <;> rfl

end Template

namespace Formats

def statementName (ruleNumber ruleName blockNumber blockName statementNumber : String) : String :=
  "<rule [" ++ ruleNumber ++ ":\"" ++ ruleName ++ "\"] block [" ++ blockNumber ++ ":\"" ++ blockName ++
    "\"] statement " ++ statementNumber ++ ">"

theorem pieces_initial : Template.pieces initial.statement =
    Template.plain "<rule [" ++
      .reference ⟨Bindings.ruleNumberName, none⟩ "$\x7brule_number\x7d".toList ::
        (Template.plain ":\"" ++
          .reference ⟨Bindings.ruleNameName, none⟩ "$\x7brule_name\x7d".toList ::
            (Template.plain "\"] block [" ++
              .reference ⟨Bindings.blockNumberName, none⟩ "$\x7bblock_number\x7d".toList ::
                (Template.plain ":\"" ++
                  .reference ⟨Bindings.blockNameName, none⟩ "$\x7bblock_name\x7d".toList ::
                    (Template.plain "\"] statement " ++
                      .reference ⟨Bindings.statementNumberName, none⟩
                        "$\x7bstatement_number\x7d".toList :: (Template.plain ">" ++ []))))) := by
  decide +kernel

theorem statementId_initial {bindings : Bindings}
    {ruleNumber ruleName blockNumber blockName statementNumber : Value}
    (h₁ : Entries.get? bindings Bindings.ruleNumberName = some ruleNumber)
    (h₂ : Entries.get? bindings Bindings.ruleNameName = some ruleName)
    (h₃ : Entries.get? bindings Bindings.blockNumberName = some blockNumber)
    (h₄ : Entries.get? bindings Bindings.blockNameName = some blockName)
    (h₅ : Entries.get? bindings Bindings.statementNumberName = some statementNumber) :
    initial.statementId bindings = .ok (statementName ruleNumber.splice ruleName.splice
      blockNumber.splice blockName.splice statementNumber.splice) := by
  let find (r : Reference) : Except Error String := (r.resolve bindings).map Value.splice
  have hfind {name : String} {value : Value} (h : Entries.get? bindings name = some value) :
      find ⟨name, none⟩ = .ok value.splice := by
    simp only [find, Reference.resolve, h, Except.map]
  change (Template.fillPieces find (Template.pieces initial.statement)).map String.ofList = _
  have hnil : Template.fillPieces find [] = .ok [] := rfl
  rw [pieces_initial, Template.fillPieces_plain, Template.fillPieces_reference (hfind h₁),
    Template.fillPieces_plain, Template.fillPieces_reference (hfind h₂), Template.fillPieces_plain,
    Template.fillPieces_reference (hfind h₃), Template.fillPieces_plain,
    Template.fillPieces_reference (hfind h₄), Template.fillPieces_plain,
    Template.fillPieces_reference (hfind h₅), Template.fillPieces_plain, hnil]
  simp only [Except.map, Except.ok.injEq]
  rw [← String.toList_inj, String.toList_ofList]
  delta statementName
  simp only [String.toList_append, List.append_assoc, List.append_nil]

end Formats

namespace Statement

variable {s : Statement} {ctx : Context} {names : List String}

def Spares (s : Statement) (names : List String) : Prop :=
  ∀ r, s.destination? = some r → r.name ∉ names

theorem get?_execute_of_spares (h : s.Spares names) {name : String} (hn : name ∈ names)
    (ha : name ≠ Bindings.regexpArrayName) (hm : name ≠ Bindings.regexpMapName) :
    Entries.get? (s.execute ctx).2.bindings name = Entries.get? ctx.bindings name := by
  obtain ⟨writes, hw, hwritten⟩ := s.exists_bindAll_execute ctx
  rw [hw]
  refine Bindings.get?_bindAll_of_not_mem (fun hmem => ?_) _
  obtain ⟨r, hr, rfl⟩ | he | he := hwritten name hmem
  · exact h r hr hn
  · exact ha he
  · exact hm he

end Statement

namespace Bindings

def labelNames : List String := [ruleNumberName, ruleNameName, blockNumberName, blockNameName]

/-- The variables of the rule and the block are as the evaluation has bound them. -/
structure Label (bindings : Bindings) (rule : Nat) (ruleName : String) (block : Nat) : Prop where
  ruleNumber : Entries.get? bindings ruleNumberName = some (number rule)
  ruleName : Entries.get? bindings ruleNameName = some (.string ruleName)
  blockNumber : Entries.get? bindings blockNumberName = some (number block)
  blockName : Entries.get? bindings blockNameName = some (.string "")

theorem Label.congr {b₁ b₂ : Bindings} {rule block : Nat} {ruleName : String}
    (h : Label b₁ rule ruleName block)
    (hb : ∀ name ∈ labelNames, Entries.get? b₂ name = Entries.get? b₁ name) :
    Label b₂ rule ruleName block where
  ruleNumber := (hb _ (by simp [labelNames])).trans h.ruleNumber
  ruleName := (hb _ (by simp [labelNames])).trans h.ruleName
  blockNumber := (hb _ (by simp [labelNames])).trans h.blockNumber
  blockName := (hb _ (by simp [labelNames])).trans h.blockName

theorem get?_enterStatement_label (bindings : Bindings) (number : Nat) :
    ∀ name ∈ labelNames,
      Entries.get? (bindings.enterStatement number) name = Entries.get? bindings name := by
  intro name hn
  have hne : name ≠ statementNumberName := by
    rintro rfl
    exact absurd hn (by decide)
  rw [get?_enterStatement, if_neg hne]

end Bindings

def RuleBook.ruleNameAt (book : RuleBook) (rule : Nat) : String :=
  ((book.rules[rule]?).bind Rule.name).getD ""

namespace Machine

variable {book : RuleBook} {assertion : Value} {past : List Visit} {state : State}

/-- The rule at the counter is labelled, and so is the block once it has been entered. -/
structure Labelled (book : RuleBook) (state : State) : Prop where
  ruleNumber : Entries.get? state.context.bindings Bindings.ruleNumberName =
    some (Bindings.number state.position.rule)
  ruleName : Entries.get? state.context.bindings Bindings.ruleNameName =
    some (.string (book.ruleNameAt state.position.rule))
  block : state.position.statement ≠ 0 → state.context.bindings.Label state.position.rule
    (book.ruleNameAt state.position.rule) state.position.block

theorem Labelled.entered (h : Labelled book state) :
    state.entered.bindings.Label state.position.rule (book.ruleNameAt state.position.rule)
      state.position.block := by
  unfold State.entered
  split
  · exact
      { ruleNumber := h.ruleNumber ▸ Bindings.get?_enterBlock _ _ _
        ruleName := h.ruleName ▸ Bindings.get?_enterBlock _ _ _
        blockNumber := Bindings.get?_enterBlock _ _ _
        blockName := Bindings.get?_enterBlock _ _ _ }
  · next hs => exact h.block hs

theorem Labelled.context (h : Labelled book state) {v : Visit} (hv : Executes book state v) :
    v.context.bindings.Label state.position.rule (book.ruleNameAt state.position.rule)
      state.position.block := by
  rw [hv.context]
  exact h.entered.congr (Bindings.get?_enterStatement_label _ _)

theorem Labelled.after (h : Labelled book state) {v : Visit} (hv : Executes book state v)
    (hs : v.statement.Spares Bindings.labelNames) :
    v.after.bindings.Label state.position.rule (book.ruleNameAt state.position.rule)
      state.position.block := by
  refine (h.context hv).congr fun name hn => Statement.get?_execute_of_spares hs hn ?_ ?_
  · rintro rfl
    exact absurd hn (by decide)
  · rintro rfl
    exact absurd hn (by decide)

theorem labelled_of_reached (h : Reached book assertion past state)
    (hspare : ∀ u ∈ past, u.position.rule = state.position.rule →
      u.statement.Spares Bindings.labelNames) : Labelled book state := by
  induction h with
  | start => exact ⟨rfl, rfl, fun hs => absurd rfl hs⟩
  | @step past state next h hs ih =>
    have hadvance := advance_of_step hs
    generalize (step book assertion state).visits = visits at hadvance hspare
    have hstate (hr : next.position.rule = state.position.rule) : Labelled book state :=
      ih fun u hu hu' => hspare u (List.mem_append_left _ hu) (hu'.trans hr.symm)
    cases hadvance with
    | pastBlock =>
      have hentered := (hstate rfl).entered
      exact ⟨hentered.ruleNumber, hentered.ruleName, fun hs => absurd rfl hs⟩
    | @nextStatement v hv _ =>
      have hv' := hspare v (List.mem_append_right _ List.mem_cons_self) (by rw [hv.position]; rfl)
      have hafter := (hstate rfl).after hv hv'
      exact ⟨hafter.ruleNumber, hafter.ruleName, fun _ => hafter⟩
    | @nextBlock v hv _ =>
      have hv' := hspare v (List.mem_append_right _ List.mem_cons_self) (by rw [hv.position]; rfl)
      have hafter := (hstate rfl).after hv hv'
      exact ⟨hafter.ruleNumber, hafter.ruleName, fun hs => absurd rfl hs⟩
    | nextRule _ _ => exact ⟨rfl, rfl, fun hs => absurd rfl hs⟩

theorem visits_run_of_failing {v : Visit} {e : Error}
    (hv : (step book assertion state).visits = [v]) (he : v.outcome = .error e) :
    (run book assertion state).visits = [v] := by
  rw [run_eq, Logged.visits_bind, hv, result_step_of_error hv he]
  rfl

theorem result_run_of_failing {v : Visit} {e : Error}
    (hv : (step book assertion state).visits = [v]) (he : v.outcome = .error e) :
    (run book assertion state).traced.result =
      .error (.inStatement (book.formats.describeStatement v.after.bindings) v.statement.text e) := by
  rw [run_eq, Logged.traced_bind, Traced.result_bind, result_step_of_error hv he]
  rfl

end Machine

namespace Formats

variable {bindings : Bindings} {number : Nat}

theorem exists_describeStatement
    (h : bindings.Binds (Bindings.ruleNames ++ Bindings.blockNames ++ [Bindings.statementNumberName]))
    (hn : Entries.get? bindings Bindings.statementNumberName = some (Bindings.number number)) :
    ∃ ruleNumber ruleName blockNumber blockName, initial.describeStatement bindings =
      statementName ruleNumber ruleName blockNumber blockName (Bindings.numeral number) := by
  obtain ⟨ruleNumber, h₁⟩ := h Bindings.ruleNumberName (by decide)
  obtain ⟨ruleName, h₂⟩ := h Bindings.ruleNameName (by decide)
  obtain ⟨blockNumber, h₃⟩ := h Bindings.blockNumberName (by decide)
  obtain ⟨blockName, h₄⟩ := h Bindings.blockNameName (by decide)
  refine ⟨ruleNumber.splice, ruleName.splice, blockNumber.splice, blockName.splice, ?_⟩
  rw [describeStatement, statementId_initial h₁ h₂ h₃ h₄ hn]
  rfl

theorem describeStatement_of_label {rule block : Nat} {ruleName : String}
    (h : bindings.Label rule ruleName block)
    (hn : Entries.get? bindings Bindings.statementNumberName = some (Bindings.number number)) :
    initial.describeStatement bindings =
      statementName (Bindings.numeral rule) ruleName (Bindings.numeral block) ""
        (Bindings.numeral number) := by
  rw [describeStatement,
    statementId_initial h.ruleNumber h.ruleName h.blockNumber h.blockName hn]
  rfl

end Formats

namespace RuleBook

/-- If the execution of a statement fails, the evaluation ends with the bare error of the statement in
one wrapper. The wrapper has the text of the statement, and a name with the number of the statement; the
name is that of the position if the statements before it in the rule spare the label. -/
theorem evaluate_error_located {book : RuleBook} {assertion : Entries Value}
    (hf : book.formats = .initial) {earlier later : List Visit} {v : Visit} {e : Error}
    (hv : (book.log assertion).visits = earlier ++ v :: later) (he : v.outcome = .error e) :
    later = [] ∧ e.IsCause ∧
      (book.statementsAt v.position.rule v.position.block)[v.position.statement]? =
        some v.statement ∧
      ∃ id, (book.evaluate (.map assertion)).result = .error (.inStatement id v.statement.text e) ∧
        (Error.inStatement id v.statement.text e).kind = e.kind ∧
        (∃ ruleNumber ruleName blockNumber blockName,
          id = Formats.statementName ruleNumber ruleName blockNumber blockName
            (Bindings.numeral v.position.statement)) ∧
        ((∀ u ∈ earlier, u.position.rule = v.position.rule →
            u.statement.Spares Bindings.labelNames) →
          id = Formats.statementName (Bindings.numeral v.position.rule)
            (book.ruleNameAt v.position.rule) (Bindings.numeral v.position.block) ""
            (Bindings.numeral v.position.statement)) ∧
        ∀ n < signedLimit, Bindings.numeral n = toString n := by
  obtain ⟨state, hreached, hstep⟩ := exists_reached hv
  have hexec := Machine.executes_of_visits hstep
  -- the bindings that the name is made from are those before the statement
  have hafter : v.after = v.context := congrArg Prod.snd (Statement.execute_eq_of_error he)
  have hnumber : Entries.get? v.after.bindings Bindings.statementNumberName =
      some (Bindings.number v.position.statement) := by
    rw [hafter, hexec.context, hexec.position]
    exact Bindings.get?_enterStatement _ _ _
  have hlater : later = [] := by
    rw [visits_log, (Machine.run_of_reached hreached).1,
      Machine.visits_run_of_failing hstep he] at hv
    simpa using (List.append_cancel_left hv).symm
  refine ⟨hlater, Statement.isCause_of_execute he, ?_,
    book.formats.describeStatement v.after.bindings, ?_, rfl, ?_, ?_, fun n => Bindings.numeral_eq⟩
  · rw [hexec.position]
    exact hexec.statement
  · rw [result_evaluate_of_reached hreached, Machine.result_run_of_failing hstep he]
  · rw [hf]
    exact Formats.exists_describeStatement
      ((Machine.bookkept_of_reached hreached).after hexec) hnumber
  · intro hspare
    have hlabelled : Machine.Labelled book state :=
      Machine.labelled_of_reached hreached (by rwa [← hexec.position])
    rw [hf]
    refine Formats.describeStatement_of_label ?_ hnumber
    rw [hafter, hexec.position]
    exact hlabelled.context hexec

theorem evaluate_error_located_length :
    let set : Statement := ⟨[.string "set", .string "$statement_number", .integer 7]⟩
    let length : Statement := ⟨[.string "length", .string "$statement_number", .null]⟩
    let rule : Rule := ⟨some "r", some [[set, length]], none, none⟩
    let book : RuleBook := ⟨[rule], [], .initial⟩
    let e : Error := .statement (.operandKind .length 2 Statement.collectionKinds .null length)
    (book.evaluate (.map [])).result =
      .error (.inStatement "<rule [0:\"r\"] block [0:\"\"] statement 1>" length.text e) := by
  intro set length rule book e
  let c₁ : Context := ((rule.start 0 (.map []) true).enterBlock 0).enterStatement 0
  let c₂ : Context := (set.execute c₁).2.enterStatement 1
  let first : Visit := ⟨⟨0, 0, 0⟩, set, c₁⟩
  let second : Visit := ⟨⟨0, 0, 1⟩, length, c₂⟩
  have hv : (book.log []).visits = [first] ++ second :: [] := rfl
  have he : second.outcome = .error e := rfl
  obtain ⟨-, -, -, id, hr, -, -, hid, hn⟩ := evaluate_error_located rfl hv he
  have hspare : ∀ u ∈ [first], u.position.rule = second.position.rule →
      u.statement.Spares Bindings.labelNames := by
    intro u hu _ r hr
    rw [List.mem_singleton.1 hu] at hr
    have hd : first.statement.destination? = some ⟨"statement_number", none⟩ := rfl
    rw [hd] at hr
    cases hr
    decide
  have h₀ : Bindings.numeral 0 = "0" := hn 0 (by decide)
  have h₁ : Bindings.numeral 1 = "1" := hn 1 (by decide)
  have hname := hid hspare
  rw [h₀, h₁] at hname
  rw [hr, hname]
  rfl

end RuleBook
end ClaimRules
