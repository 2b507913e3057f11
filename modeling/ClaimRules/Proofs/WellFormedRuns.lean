import ClaimRules.Proofs.Comparison
import ClaimRules.Proofs.Extraction
import ClaimRules.Proofs.Literals
import ClaimRules.Proofs.WellFormed

/-! Evaluations of rules that are loaded from text meet well-formed values only, and so does whoever reads
their claims. -/

namespace ClaimRules

theorem Binary64.isNaN_of_isFinite {x : Binary64} (h : x.isFinite = true) : x.isNaN = false := by
  simp only [isFinite, isNaN, decide_eq_true_eq, decide_eq_false_iff_not] at h ⊢
  omega

namespace Statement

variable {ctx : Context} {item value : Value}

theorem execute_compare_self {r : Reference} (hi : Operand.ofValue item = .reference r)
    (hr : r.resolve ctx.bindings = .ok value) (hv : value.WellFormed) :
    (⟨[.string "compare", item, .string "==", item]⟩ : Statement).execute ctx =
        (.ok .statementContinue, ⟨ctx.bindings, true⟩) ∧
      (⟨[.string "compare", item, .string "!=", item]⟩ : Statement).execute ctx =
        (.ok .statementContinue, ⟨ctx.bindings, false⟩) := by
  have hsame : value.same value = true :=
    Value.same_self (hv.mono fun _ => Binary64.isNaN_of_isFinite)
  have hvalue : (Operand.ofValue item).resolve ctx.bindings = .ok value := by
    rw [hi]
    exact hr
  have hequal : compareValues value "==" value = .ok true := congrArg Except.ok hsame
  have hdiffer : compareValues value "!=" value = .ok false := by
    simp only [compareValues, hsame, Bool.not_true]
  exact ⟨(compares_of_items rfl hvalue hvalue).execute_of_ok rfl hequal,
    (compares_of_items rfl hvalue hvalue).execute_of_ok rfl hdiffer⟩

end Statement

theorem Value.printed_real_ne_null {x : Binary64} (h : x.isFinite = true) :
    (real x).compactJson ≠ "null" ∧ (real x).prettyJson ≠ "null" := by
  have hdoc : (real x).toJson = .real x h := by
    simp only [toJson, h, dite_true]
  have htext : String.ofList (x.write Json.realLayout) ≠ "null" := by
    intro he
    obtain ⟨c, hc, hdigit⟩ := Binary64.head?_write Json.realLayout x
    have hchars : x.write Json.realLayout = ['n', 'u', 'l', 'l'] :=
      String.toList_ofList.symm.trans (congrArg String.toList he)
    rw [hchars] at hc
    cases hc
    revert hdigit
    decide
  have hcompact : (real x).compactJson = String.ofList (x.write Json.realLayout) := by
    rw [compactJson, hdoc]
    rfl
  have hpretty : (real x).prettyJson = String.ofList (x.write Json.realLayout) := by
    rw [prettyJson, hdoc]
    rfl
  rw [hcompact, hpretty]
  exact ⟨htext, htext⟩

theorem Mapping.WellFormed.claim {mapping : Mapping} (hm : Mapping.WellFormed mapping)
    {formats : Formats} {bindings : Bindings} (hb : (Value.map bindings).WellFormed) {claim : Claim}
    (h : mapping.claim formats bindings = .ok claim) : (Value.map claim).WellFormed := by
  let Bound (operand : Operand) (value : Value) : Prop := operand.resolve bindings = .ok value
  have hall : List.Forall₂ (fun entry bound => bound.1 = entry.1 ∧ Bound entry.2 bound.2) mapping
      claim := claim_eq_ok_iff.1 h
  refine Value.regular_map.2 ⟨Entries.distinct_of_forall₂ Bound hall hm.keys, fun bound hbound => ?_⟩
  obtain ⟨entry, he, -, hvalue⟩ := exists_mem_of_forall₂ hall hbound
  exact (hm.operands entry he).resolve hb hvalue

theorem Rule.exists_mapping_of_extractClaim {rule : Rule} {formats : Formats}
    {mappings : MappingTable} {bindings : Bindings} {claim : Claim}
    (h : (rule.extractClaim formats mappings bindings).result = .ok claim) :
    ∃ mapping, rule.mappingIn mappings = some mapping ∧
      mapping.claim formats bindings = .ok claim := by
  rcases hm : rule.mapping with _ | mapping
  · rcases hid : formats.ruleId bindings with e | id
    · rw [result_extractClaim_of_none hm, hid] at h
      cases h
    · rw [result_extractClaim hid] at h
      split at h
      · next mapping hfound => exact ⟨mapping, hfound, h⟩
      · cases h
  · rw [result_extractClaim_of_some hm] at h
    exact ⟨mapping, by rw [mappingIn, hm], h⟩

namespace RuleBook

variable {book : RuleBook} {assertion : Entries Value}

theorem WellFormed.invariant (hb : book.WellFormed) {assertion : Value} (ha : assertion.WellFormed) :
    Invariant book.rules assertion fun bindings => (Value.map bindings).WellFormed where
  start number name := by
    have hkeys : [Bindings.ruleNumberName, Bindings.ruleNameName, Bindings.assertionName].Nodup := by
      decide
    refine Value.regular_map.2 ⟨hkeys, fun entry he => ?_⟩
    simp only [Bindings.forRule, List.mem_cons, List.not_mem_nil, or_false] at he
    rcases he with rfl | rfl | rfl
    · exact Value.regular_integer _
    · exact Value.regular_string name
    · exact ha
  enterBlock _ h := (h.insert _ (Value.regular_integer _)).insert _ (Value.regular_string _)
  enterStatement _ h := h.insert _ (Value.regular_integer _)
  execute rule hr s hs _ h := Statement.regular_execute ((hb.rules rule hr).statements s hs) h

theorem WellFormed.mappingIn (hb : book.WellFormed) {rule : Rule} (hr : rule ∈ book.rules)
    {mapping : Mapping} (h : rule.mappingIn book.mappings = some mapping) :
    Mapping.WellFormed mapping := by
  unfold Rule.mappingIn at h
  split at h
  · next own hm =>
    cases h
    exact (hb.rules rule hr).mapping _ hm
  · obtain ⟨name, -, hg⟩ := Option.bind_eq_some_iff.1 h
    exact hb.mappings _ (Entries.mem_of_get? hg)

theorem WellFormed.claim (hb : book.WellFormed) (ha : (Value.map assertion).WellFormed)
    {claim : Claim} (h : (book.evaluate (.map assertion)).result = .ok (some claim)) :
    (Value.map claim).WellFormed := by
  rw [evaluate_eq_winner, Traced.result_bind] at h
  obtain ⟨winner?, hw, h⟩ := bind_eq_ok_iff.1 h
  rcases winner? with _ | winner
  · cases h
  change (book.conclude (some winner)).result = .ok (some claim) at h
  rw [result_conclude_some] at h
  rcases hc : (winner.rule.extractClaim book.formats book.mappings winner.bindings).result with e | found
  · rw [hc] at h
    cases h
  rw [hc] at h
  cases h
  obtain ⟨hmem, hbindings⟩ := (hb.invariant ha).winner hw
  obtain ⟨mapping, hfound, hclaim⟩ := Rule.exists_mapping_of_extractClaim hc
  exact (hb.mappingIn hmem hfound).claim hbindings hclaim

theorem result_evaluateText (book : RuleBook) (text : String) :
    (book.evaluateText text).result =
      (Json.ofText text >>= Value.load) >>= fun assertion => (book.evaluate assertion).result := by
  unfold evaluateText
  simp only [Traced.result_bind, Traced.result_ofExcept, bind_assoc]

/-- Whatever rules, mappings and assertion are loaded from text, all variables have well-formed values
wherever the evaluation comes to, and so has the claim: no map has a key twice and every real is finite.
What a reference stands for is therefore equal to itself at any time, and the document of the claim
loses nothing of it, in particular no real. -/
theorem evaluateText_wellFormed {rulesText tableText : String} {rules : List Rule}
    {table : MappingTable} (hrules : Rule.loadText rulesText = .ok rules)
    (htable : MappingTable.loadText tableText = .ok table) (formats : Formats) (text : String) :
    let book : RuleBook := ⟨rules, table, formats⟩
    (∀ value, (Json.ofText text >>= Value.load) = .ok value → value.WellFormed) ∧
    (∀ assertion, (Json.ofText text >>= Value.load) = .ok (.map assertion) →
      (book.evaluateText text).result = (book.log assertion).traced.result ∧
      ∀ ctx, book.Meets assertion ctx → (Value.map ctx.bindings).WellFormed ∧
        ∀ item r value, Operand.ofValue item = .reference r →
          r.resolve ctx.bindings = .ok value →
          (⟨[.string "compare", item, .string "==", item]⟩ : Statement).execute ctx =
              (.ok .statementContinue, ⟨ctx.bindings, true⟩) ∧
            (⟨[.string "compare", item, .string "!=", item]⟩ : Statement).execute ctx =
              (.ok .statementContinue, ⟨ctx.bindings, false⟩)) ∧
    ∀ claim, (book.evaluateText text).result = .ok (some claim) →
      (Value.map claim).WellFormed ∧ Value.ofJson (Value.map claim).toJson = .ok (.map claim) ∧
        ∀ x, Value.Part (.real x) (.map claim) →
          (Value.real x).compactJson ≠ "null" ∧ (Value.real x).prettyJson ≠ "null" := by
  intro book
  have hbook : book.WellFormed :=
    ⟨Rule.wellFormed_of_loadText hrules, MappingTable.wellFormed_of_loadText htable⟩
  have hloaded {value : Value} (h : (Json.ofText text >>= Value.load) = .ok value) :
      value.WellFormed := by
    obtain ⟨doc, hdoc, hvalue⟩ := bind_eq_ok_iff.1 h
    exact Value.wellFormed_of_load (Json.spelled_of_ofText hdoc) hvalue
  refine ⟨fun value h => hloaded h, fun assertion h => ⟨?_, fun ctx hctx => ?_⟩, fun claim h => ?_⟩
  · rw [result_evaluateText, h, traced_log]
    rfl
  · have hwell : (Value.map ctx.bindings).WellFormed := (hbook.invariant (hloaded h)).meets hctx
    refine ⟨hwell, fun item r value hi hr => ?_⟩
    exact Statement.execute_compare_self hi hr (Reference.regular_resolve hwell hr)
  · rw [result_evaluateText] at h
    obtain ⟨value, hvalue, h⟩ := bind_eq_ok_iff.1 h
    cases value with
    | map assertion =>
      have hwell : (Value.map claim).WellFormed := hbook.claim (hloaded hvalue) h
      exact ⟨hwell, Value.ofJson_toJson hwell.reals,
        fun x hx => Value.printed_real_ne_null (hwell.reals x hx)⟩
    | _ => cases h

theorem evaluateText_wellFormed_lower :
    let rulesText := "[\x7b\"statement_blocks\":[[[\"lower\",\"$m\",\"$assertion[m]\"]," ++
      "[\"set\",\"$m[k]\",-1.5]]],\"mapping\":\x7b\"m\":\"$m\"\x7d\x7d]"
    let tableText := "\x7b\x7d"
    let text := "\x7b\"m\":\x7b\"K\":1,\"x\":2,\"k\":null\x7d\x7d"
    let claimText := "\x7b\"m\":\x7b\"k\":-1.5,\"x\":2\x7d\x7d"
    ∃ rules table claim, Rule.loadText rulesText = .ok rules ∧
      MappingTable.loadText tableText = .ok table ∧
      (RuleBook.evaluateText ⟨rules, table, .initial⟩ text).result = .ok (some claim) ∧
      (Value.map claim).compactJson = claimText ∧
      (Value.map claim).WellFormed ∧ Value.ofJson (Value.map claim).toJson = .ok (.map claim) := by
  intro rulesText tableText text claimText
  have hanswer : ((Rule.loadText rulesText).toOption.bind fun rules =>
      (MappingTable.loadText tableText).toOption.bind fun table =>
        (RuleBook.evaluateText ⟨rules, table, .initial⟩ text).result.toOption.map
          (Option.map fun claim => (Value.map claim).compactJson)) =
      some (some claimText) := by
    decide +kernel
  clear_value rulesText tableText text claimText
  rcases hrules : Rule.loadText rulesText with e | rules
  · simp [hrules, Except.toOption] at hanswer
  rcases htable : MappingTable.loadText tableText with e | table
  · simp [hrules, htable, Except.toOption] at hanswer
  rcases hresult : (RuleBook.evaluateText ⟨rules, table, .initial⟩ text).result with e | claim?
  · simp [hrules, htable, hresult, Except.toOption] at hanswer
  rcases claim? with _ | claim
  · simp [hrules, htable, hresult, Except.toOption] at hanswer
  have hprinted : (Value.map claim).compactJson = claimText := by
    simpa [hrules, htable, hresult, Except.toOption] using hanswer
  obtain ⟨-, -, hclaim⟩ := evaluateText_wellFormed hrules htable .initial text
  obtain ⟨hwell, hback, -⟩ := hclaim claim hresult
  exact ⟨rules, table, claim, rfl, rfl, hresult, hprinted, hwell, hback⟩

end RuleBook
end ClaimRules
