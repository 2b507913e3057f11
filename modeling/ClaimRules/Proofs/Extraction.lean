import ClaimRules.Proofs.Loading
import ClaimRules.Proofs.Reserved

/-! Extraction of claims. A rule that succeeds yields a value for every key of its mapping, or none at
all. -/

namespace ClaimRules

namespace Mapping

variable {mapping : Mapping} {formats : Formats} {bindings : Bindings}

theorem claim_eq_ok_iff {claim : Claim} :
    mapping.claim formats bindings = .ok claim ↔
      List.Forall₂ (fun entry bound => bound.1 = entry.1 ∧ entry.2.resolve bindings = .ok bound.2)
        mapping claim := by
  unfold Mapping.claim
  rw [mapItems_eq_ok_iff]
  constructor
  · refine fun h => h.imp fun entry bound hb => ?_
    rcases hr : entry.2.resolve bindings with e | value
    · simp [hr] at hb
    · simp only [hr, Except.ok.injEq] at hb
      exact hb ▸ ⟨rfl, rfl⟩
  · refine fun h => h.imp fun entry bound hb => ?_
    simp only [hb.2, ← hb.1]

theorem exists_claim (h : ∀ entry ∈ mapping, ∃ value, entry.2.resolve bindings = .ok value) :
    ∃ claim, mapping.claim formats bindings = .ok claim ∧
      List.Forall₂ (fun entry bound => bound.1 = entry.1 ∧ entry.2.resolve bindings = .ok bound.2)
        mapping claim := by
  simp only [claim_eq_ok_iff, and_self]
  induction mapping with
  | nil => exact ⟨[], .nil⟩
  | cons entry rest ih =>
    obtain ⟨value, hv⟩ := h entry List.mem_cons_self
    obtain ⟨claim, hclaim⟩ := ih fun entry he => h entry (List.mem_cons_of_mem _ he)
    exact ⟨(entry.1, value) :: claim, .cons ⟨rfl, hv⟩ hclaim⟩

theorem claim_of_error {before after : Mapping} {entry : String × Operand} {e : Error}
    (hb : ∀ entry ∈ before, ∃ value, entry.2.resolve bindings = .ok value)
    (he : entry.2.resolve bindings = .error e) :
    Mapping.claim (before ++ entry :: after) formats bindings =
      .error (.inMapping (formats.describeRule bindings) entry.1 entry.2.text e) := by
  refine mapItems_of_error (fun entry hentry => ?_) ?_
  · obtain ⟨value, hv⟩ := hb entry hentry
    exact ⟨(entry.1, value), by rw [hv]⟩
  · rw [he]

end Mapping

namespace Rule

variable {rule : Rule} {mappings : MappingTable} {formats : Formats} {bindings : Bindings}
  {id : String}

def mappingIn (rule : Rule) (mappings : MappingTable) : Option Mapping :=
  match rule.mapping with
  | some mapping => some mapping
  | none => rule.mappingName.bind (Entries.get? mappings)

def mappingFault (rule : Rule) (id : String) : RuleFault :=
  match rule.mappingName with
  | none => .noMapping id
  | some name => .unknownMapping id name

theorem result_extractClaim (hid : formats.ruleId bindings = .ok id) (mappings : MappingTable) :
    (rule.extractClaim formats mappings bindings).result =
      match rule.mappingIn mappings with
      | some mapping => mapping.claim formats bindings
      | none => .error (.rule (rule.mappingFault id)) := by
  unfold mappingIn
  rcases hm : rule.mapping with _ | mapping
  · rw [result_extractClaim_of_none hm, hid]
    unfold mappingFault
    change rule.namedMapping mappings id >>= _ = _
    unfold namedMapping
    rcases rule.mappingName with _ | name
    · rfl
    rcases hg : Entries.get? mappings name with _ | mapping
    · simp only [hg, Option.bind_some]
      rfl
    · simp only [hg, Option.bind_some]
      rfl
  · rw [result_extractClaim_of_some hm]

end Rule

namespace RuleBook

variable {book : RuleBook} {assertion : Entries Value} {winner : Success} {id : String}

theorem result_evaluate_of_winner
    (hw : (Rule.winner book.formats book.rules (.map assertion)).result = .ok (some winner))
    (hid : book.formats.ruleId winner.bindings = .ok id) :
    (book.evaluate (.map assertion)).result =
      match winner.rule.mappingIn book.mappings with
      | some mapping => (mapping.claim book.formats winner.bindings).map some
      | none => .error (.rule (winner.rule.mappingFault id)) := by
  rw [evaluate_eq_winner, Traced.result_bind, hw]
  change (book.conclude (some winner)).result = _
  rw [result_conclude_some, Rule.result_extractClaim hid]
  rcases winner.rule.mappingIn book.mappings with _ | mapping <;> rfl

/-- The rule that succeeds yields the claim of its mapping, whose keys are those of the mapping in their
order, each with the value of its own operand, if all operands have values. Otherwise the first entry
without a value gives an error that tells its key, and without a mapping the rule is invalid. Mappings
that are loaded keep their keys in the order of the text; a key that occurs again stands at its first
place with its last operand. -/
theorem evaluate_extraction (book : RuleBook) (hf : book.formats = .initial)
    (assertion : Entries Value) :
    (∀ winner,
      (Rule.winner book.formats book.rules (.map assertion)).result = .ok (some winner) →
      ∃ id, Formats.initial.ruleId winner.bindings = .ok id ∧
        (winner.rule.mappingIn book.mappings = none →
          (book.evaluate (.map assertion)).result =
            .error (.rule (winner.rule.mappingFault id))) ∧
        ∀ mapping, winner.rule.mappingIn book.mappings = some mapping →
          ((∀ entry ∈ mapping, ∃ value, entry.2.resolve winner.bindings = .ok value) →
            ∃ claim, (book.evaluate (.map assertion)).result = .ok (some claim) ∧
              List.Forall₂ (fun entry bound => bound.1 = entry.1 ∧
                entry.2.resolve winner.bindings = .ok bound.2) mapping claim) ∧
          ∀ before entry after e, mapping = before ++ entry :: after →
            (∀ earlier ∈ before, ∃ value, earlier.2.resolve winner.bindings = .ok value) →
            entry.2.resolve winner.bindings = .error e →
            (book.evaluate (.map assertion)).result =
                .error (.inMapping id entry.1 entry.2.text e) ∧
              (Error.inMapping id entry.1 entry.2.text e).kind = e.kind) ∧
    (∀ text rules, Rule.loadText text = .ok rules →
      ∃ items, (∀ spelling : Json.Spelling, spelling.Spans text ↔ spelling = .array items) ∧
        List.Forall₂ Rule.MappingLoadedFrom items rules) ∧
    ∀ text table, MappingTable.loadText text = .ok table →
      ∃ written, (∀ spelling : Json.Spelling, spelling.Spans text ↔ spelling = written) ∧
        MappingTable.LoadedFrom written table := by
  refine ⟨fun winner hw => ?_, fun text rules h => ?_, fun text table h => ?_⟩
  · -- the name of the rule can be made, so that looking the mapping up is all that may fail
    obtain ⟨id, hid⟩ := Formats.exists_ruleId (binds_winner hw)
    have hr := result_evaluate_of_winner hw (hf ▸ hid)
    refine ⟨id, hid, fun hn => ?_, fun mapping hm => ⟨fun hall => ?_, ?_⟩⟩
    · rw [hr, hn]
    · obtain ⟨claim, hc, hbound⟩ := Mapping.exists_claim hall
      exact ⟨claim, by rw [hr, hm]; exact congrArg (Except.map some) hc, hbound⟩
    · rintro before entry after e rfl hb he
      have hname : book.formats.describeRule winner.bindings = id := by
        rw [hf, Formats.describeRule, hid]
      have hc : Mapping.claim (before ++ entry :: after) book.formats winner.bindings =
          .error (.inMapping (book.formats.describeRule winner.bindings) entry.1 entry.2.text e) :=
        Mapping.claim_of_error hb he
      rw [hr, hm, ← hname]
      exact ⟨congrArg (Except.map some) hc, rfl⟩
  · obtain ⟨items, hs, hall⟩ := Rule.loadText_spans h
    exact ⟨items, fun spelling => hs.iff_eq, hall⟩
  · obtain ⟨written, hs, hloaded⟩ := MappingTable.loadText_spans h
    exact ⟨written, fun spelling => hs.iff_eq, hloaded⟩

theorem evaluate_extraction_inline :
    let rulesText := "[\x7b\"mapping\":\x7b\"b\":1,\"a\":\"$assertion[x]\",\"b\":\"y\"\x7d\x7d]"
    let tableText := "\x7b\"m\":\x7b\x7d\x7d"
    let x : Reference := ⟨"assertion", some "x"⟩
    let mapping : Mapping := [("b", .constant (.string "y")), ("a", .reference x)]
    let book : RuleBook := ⟨[⟨none, some [], some mapping, some "m"⟩], [("m", [])], .initial⟩
    (∃ rules items, Rule.loadText rulesText = .ok rules ∧
      rules.map (fun rule => rule.mapping.map Entries.keys) = [some ["b", "a"]] ∧
      (Json.Spelling.array items).Spans rulesText ∧
      List.Forall₂ Rule.MappingLoadedFrom items rules) ∧
    (∃ table written, MappingTable.loadText tableText = .ok table ∧ table.keys = ["m"] ∧
      written.Spans tableText ∧ MappingTable.LoadedFrom written table) ∧
    (book.evaluate (.map [("x", .integer 5)])).result =
      .ok (some [("b", .string "y"), ("a", .integer 5)]) ∧
    ∃ id, (book.evaluate (.map [])).result =
      .error (.inMapping id "a" (Operand.reference x).text (.lookup (.missingKey "assertion" "x"))) := by
  intro rulesText tableText x mapping book
  obtain ⟨hfive, hrules, htable⟩ := evaluate_extraction book rfl [("x", .integer 5)]
  obtain ⟨hnothing, -, -⟩ := evaluate_extraction book rfl []
  refine ⟨?_, ?_, ?_, ?_⟩
  · have hkeys : (Rule.loadText rulesText).toOption.map
        (List.map fun rule => rule.mapping.map Entries.keys) = some [some ["b", "a"]] := by
      decide +kernel
    rcases hl : Rule.loadText rulesText with e | rules
    · rw [hl] at hkeys
      cases hkeys
    · rw [hl] at hkeys
      obtain ⟨items, hspans, hall⟩ := hrules rulesText rules hl
      exact ⟨rules, items, rfl, Option.some.inj hkeys, (hspans _).2 rfl, hall⟩
  · have hkeys : (MappingTable.loadText tableText).toOption.map Entries.keys = some ["m"] := by
      decide +kernel
    rcases hl : MappingTable.loadText tableText with e | table
    · rw [hl] at hkeys
      cases hkeys
    · rw [hl] at hkeys
      obtain ⟨written, hspans, hloaded⟩ := htable tableText table hl
      exact ⟨table, written, rfl, Option.some.inj hkeys, (hspans _).2 rfl, hloaded⟩
  · obtain ⟨id, -, -, hclaim⟩ := hfive ⟨0, _, Bindings.forRule 0 "" (.map [("x", .integer 5)])⟩ rfl
    obtain ⟨claim, hr, hbound⟩ := (hclaim mapping rfl).1 (by
      intro entry he
      simp only [mapping, List.mem_cons, List.not_mem_nil, or_false] at he
      rcases he with rfl | rfl
      · exact ⟨.string "y", rfl⟩
      · exact ⟨.integer 5, rfl⟩)
    have hc : mapping.claim .initial _ = .ok claim := Mapping.claim_eq_ok_iff.2 hbound
    cases hc
    exact hr
  · obtain ⟨id, -, -, hclaim⟩ := hnothing ⟨0, _, Bindings.forRule 0 "" (.map [])⟩ rfl
    obtain ⟨hr, -⟩ := (hclaim mapping rfl).2 [("b", .constant (.string "y"))] ("a", .reference x) []
      _ rfl (by
        intro entry he
        rw [List.mem_singleton.1 he]
        exact ⟨.string "y", rfl⟩) rfl
    exact ⟨id, hr⟩

end RuleBook
end ClaimRules
