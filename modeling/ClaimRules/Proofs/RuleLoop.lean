import ClaimRules.Evaluation
import ClaimRules.Proofs.Result

/-! Composition of the loop over the rules. All that failed rules leave to the later ones is the
success flag and how many they were. -/

namespace ClaimRules

inductive Ending where
  | matched (claim : Claim)
  | noMatch (success : Bool)

namespace Ending

def claim? : Ending → Option Claim
  | .matched claim => some claim
  | .noMatch _ => none

def orElse (next : Bool → Traced Ending) : Ending → Traced Ending
  | .matched claim => pure (.matched claim)
  | .noMatch success => next success

def conclude : Ending → Traced (Option Claim)
  | .matched claim => pure (some claim)
  | .noMatch _ => do
    .report .noMatch
    return none

theorem result_conclude (ending : Ending) : ending.conclude.result = .ok ending.claim? := by
  cases ending <;> rfl

end Ending

namespace Rule

variable {formats : Formats} {mappings : MappingTable} {assertion : Value}

def passFrom (formats : Formats) (mappings : MappingTable) (assertion : Value) :
    Nat → Bool → List Rule → Traced Ending
  | _, success, [] => pure (.noMatch success)
  | number, success, rule :: rest => do
    let (outcome, ctx) ← rule.run formats (rule.start number assertion success)
    .report (.ruleFinished number outcome)
    match outcome with
    | .ruleSuccess => do
      let claim ← rule.extractClaim formats mappings ctx.bindings
      .report (.ruleMatched number claim)
      return .matched claim
    | _ => passFrom formats mappings assertion (number + 1) ctx.success rest

/-- Rules in front of others are tried first; only their number and the flag are handed on. -/
theorem passFrom_append (rs ts : List Rule) (number : Nat) (success : Bool) :
    passFrom formats mappings assertion number success (rs ++ ts) =
      passFrom formats mappings assertion number success rs >>=
        Ending.orElse fun left =>
          passFrom formats mappings assertion (number + rs.length) left ts := by
  induction rs generalizing number success with
  | nil => exact (pure_bind _ _).symm
  | cons rule rest ih =>
    rw [List.cons_append, passFrom, passFrom, bind_assoc]
    refine bind_congr fun p => ?_
    obtain ⟨outcome, ctx⟩ := p
    rw [bind_assoc]
    refine bind_congr fun _ => ?_
    -- a failed rule counts as one of those in front
    have hn : number + (rule :: rest).length = number + 1 + rest.length := by
      rw [List.length_cons]
      omega
    cases outcome with
    | ruleSuccess =>
      simp only [bind_assoc, pure_bind]
      rfl
    | _ =>
      rw [hn]
      exact ih (number + 1) ctx.success

end Rule

namespace RuleBook

variable {book : RuleBook} {rs ts : List Rule} {mappings : MappingTable} {formats : Formats}
  {assertion : Entries Value} {ending : Ending}

theorem tryFrom_eq_pass (assertion : Value) (number : Nat) (success : Bool) (rules : List Rule) :
    book.tryFrom assertion number success rules =
      Rule.passFrom book.formats book.mappings assertion number success rules >>=
        Ending.conclude := by
  induction rules generalizing number success with
  | nil => rfl
  | cons rule rest ih =>
    rw [tryFrom, Rule.passFrom, bind_assoc]
    refine bind_congr fun p => ?_
    obtain ⟨outcome, ctx⟩ := p
    rw [bind_assoc]
    refine bind_congr fun _ => ?_
    cases outcome with
    | ruleSuccess =>
      simp only [bind_assoc, pure_bind]
      rfl
    | _ => exact ih (number + 1) ctx.success

def pass (book : RuleBook) (assertion : Entries Value) : Traced Ending :=
  Rule.passFrom book.formats book.mappings (.map assertion) 0 true book.rules

theorem evaluate_eq_pass (book : RuleBook) (assertion : Entries Value) :
    book.evaluate (.map assertion) =
      .report (.processing (.map assertion)) >>= fun _ =>
        book.pass assertion >>= Ending.conclude :=
  bind_congr fun _ => tryFrom_eq_pass (.map assertion) 0 true book.rules

theorem result_evaluate (book : RuleBook) (assertion : Entries Value) :
    (book.evaluate (.map assertion)).result =
      (book.pass assertion).result.map Ending.claim? := by
  rw [evaluate_eq_pass, Traced.result_bind, Traced.result_report]
  change (book.pass assertion >>= Ending.conclude).result = _
  rw [Traced.result_bind]
  rcases (book.pass assertion).result with e | ending
  · rfl
  · exact ending.result_conclude

theorem pass_append (rs ts : List Rule) (mappings : MappingTable) (formats : Formats)
    (assertion : Entries Value) :
    pass ⟨rs ++ ts, mappings, formats⟩ assertion =
      pass ⟨rs, mappings, formats⟩ assertion >>=
        Ending.orElse fun left =>
          Rule.passFrom formats mappings (.map assertion) rs.length left ts := by
  have h : pass ⟨rs ++ ts, mappings, formats⟩ assertion =
      pass ⟨rs, mappings, formats⟩ assertion >>=
        Ending.orElse fun left =>
          Rule.passFrom formats mappings (.map assertion) (0 + rs.length) left ts :=
    Rule.passFrom_append rs ts 0 true
  rwa [Nat.zero_add] at h

theorem pass_append_of_ne
    (h : ∀ left, (pass ⟨rs, mappings, formats⟩ assertion).result ≠ .ok (.noMatch left)) :
    pass ⟨rs ++ ts, mappings, formats⟩ assertion = pass ⟨rs, mappings, formats⟩ assertion := by
  rw [pass_append, ← bind_pure (pass ⟨rs, mappings, formats⟩ assertion), bind_assoc]
  refine Traced.bind_congr_of_result fun ending he => ?_
  rw [pure_bind]
  cases ending with
  | matched claim => rfl
  | noMatch left => exact absurd he (h left)

theorem result_pass_append_of_noMatch {left : Bool}
    (h : (pass ⟨rs, mappings, formats⟩ assertion).result = .ok (.noMatch left)) :
    (pass ⟨rs ++ ts, mappings, formats⟩ assertion).result =
      (Rule.passFrom formats mappings (.map assertion) rs.length left ts).result := by
  rw [pass_append, Traced.result_bind, h]
  rfl

/-- Rules that yield a claim or an error hide all that stands behind them; and of rules that all fail,
those behind them notice only how many they were and which success flag they left. -/
theorem evaluate_append (rs : List Rule) (mappings : MappingTable) (formats : Formats)
    (assertion : Entries Value) :
    (evaluate ⟨rs, mappings, formats⟩ (.map assertion)).result =
      (pass ⟨rs, mappings, formats⟩ assertion).result.map Ending.claim? ∧
    ((evaluate ⟨rs, mappings, formats⟩ (.map assertion)).result ≠ .ok none →
      ∀ ts, evaluate ⟨rs ++ ts, mappings, formats⟩ (.map assertion) =
        evaluate ⟨rs, mappings, formats⟩ (.map assertion)) ∧
    ∀ rs' left, rs.length = rs'.length →
      (pass ⟨rs, mappings, formats⟩ assertion).result = .ok (.noMatch left) →
      (pass ⟨rs', mappings, formats⟩ assertion).result = .ok (.noMatch left) →
      ∀ ts, (evaluate ⟨rs ++ ts, mappings, formats⟩ (.map assertion)).result =
        (evaluate ⟨rs' ++ ts, mappings, formats⟩ (.map assertion)).result := by
  refine ⟨result_evaluate _ _, fun h ts => ?_, fun rs' left hlen hrs hrs' ts => ?_⟩
  · have hne : ∀ left,
        (pass ⟨rs, mappings, formats⟩ assertion).result ≠ .ok (.noMatch left) := by
      intro left hl
      rw [result_evaluate, hl] at h
      exact h rfl
    rw [evaluate_eq_pass, evaluate_eq_pass, pass_append_of_ne hne]
  · rw [result_evaluate, result_evaluate, result_pass_append_of_noMatch hrs,
      result_pass_append_of_noMatch hrs', hlen]

theorem evaluate_append_unset :
    let compare : Statement := ⟨[.string "compare", .integer 1, .string "==", .integer 2]⟩
    let fail : Statement := ⟨[.string "exit", .string "rule_fails", .string "always"]⟩
    let change : Statement := ⟨[.string "set", .string "$assertion[user]", .string "bob"]⟩
    let ask : Statement := ⟨[.string "exit", .string "rule_fails", .string "if_success"]⟩
    let unset : Rule := ⟨none, some [[compare, fail]], none, none⟩
    let changing : Rule := ⟨none, some [[change, compare], [fail]], none, none⟩
    let asking : Rule :=
      ⟨none, some [[ask]], some [("user", .reference ⟨"assertion", some "user"⟩)], none⟩
    let bare : Rule := ⟨none, none, none, none⟩
    let assertion : Entries Value := [("user", .string "al")]
    let book (rules : List Rule) : RuleBook := ⟨rules, [], .initial⟩
    ((book [unset, asking, bare]).evaluate (.map assertion)).result = .ok (some assertion) ∧
      ((book [changing, asking]).evaluate (.map assertion)).result = .ok (some assertion) := by
  intro compare fail change ask unset changing asking bare assertion book
  have hclaim : ((book [unset, asking]).evaluate (.map assertion)).result = .ok (some assertion) :=
    rfl
  have hunset : ((book [unset]).pass assertion).result = .ok (.noMatch false) :=
    rfl
  have hchanging : ((book [changing]).pass assertion).result = .ok (.noMatch false) :=
    rfl
  constructor
  · have h := (evaluate_append [unset, asking] [] .initial assertion).2.1
      (fun hn => by rw [hclaim] at hn; cases hn) [bare]
    exact (congrArg Traced.result h).trans hclaim
  · have h := (evaluate_append [unset] [] .initial assertion).2.2 [changing] false rfl hunset
      hchanging [asking]
    exact h.symm.trans hclaim

end RuleBook
end ClaimRules
