import ClaimRules.Evaluation
import ClaimRules.Proofs.Result

/-! Two evaluations side by side. If a relation between contexts holds at the start of each rule and
is kept by every statement, then the evaluations end alike. -/

namespace ClaimRules

def Rule.statements (rule : Rule) : List Statement := (rule.blocks.getD []).flatten

/-- What has to be shown of two evaluations of the same rules. -/
structure Lockstep (book₁ book₂ : RuleBook) (assertion₁ assertion₂ : Value)
    (E : Error → Error → Prop) (R : Context → Context → Prop) (rules : List Rule) : Prop where
  success : ∀ {c d}, R c d → c.success = d.success
  start : ∀ rule ∈ rules, ∀ number success,
    R (rule.start number assertion₁ success) (rule.start number assertion₂ success)
  enterBlock : ∀ {c d} number, R c d → R (c.enterBlock number) (d.enterBlock number)
  enterStatement : ∀ {c d} number, R c d → R (c.enterStatement number) (d.enterStatement number)
  run : ∀ rule ∈ rules, ∀ s ∈ rule.statements, ∀ {c d}, R c d →
    Alike E (fun x y => x.1 = y.1 ∧ R x.2 y.2) (s.run book₁.formats c).result
      (s.run book₂.formats d).result
  noBlocks : E (.rule .noBlocks) (.rule .noBlocks)
  extractClaim : ∀ rule ∈ rules, ∀ {c d}, R c d →
    Alike E Eq (rule.extractClaim book₁.formats book₁.mappings c.bindings).result
      (rule.extractClaim book₂.formats book₂.mappings d.bindings).result

namespace Lockstep

variable {book₁ book₂ : RuleBook} {assertion₁ assertion₂ : Value} {E : Error → Error → Prop}
  {R : Context → Context → Prop} {rules : List Rule}

theorem tail {rule : Rule}
    (h : Lockstep book₁ book₂ assertion₁ assertion₂ E R (rule :: rules)) :
    Lockstep book₁ book₂ assertion₁ assertion₂ E R rules where
  success := h.success
  start rule hr := h.start rule (List.mem_cons_of_mem _ hr)
  enterBlock := h.enterBlock
  enterStatement := h.enterStatement
  run rule hr := h.run rule (List.mem_cons_of_mem _ hr)
  noBlocks := h.noBlocks
  extractClaim rule hr := h.extractClaim rule (List.mem_cons_of_mem _ hr)

theorem blockFrom (h : Lockstep book₁ book₂ assertion₁ assertion₂ E R rules) {rule : Rule}
    (hr : rule ∈ rules) {block : Block} (hb : ∀ s ∈ block, s ∈ rule.statements) {c d : Context}
    (hc : R c d) (number : Nat) :
    Alike E (fun x y => x.1 = y.1 ∧ R x.2 y.2) (Block.runFrom book₁.formats number block c).result
      (Block.runFrom book₂.formats number block d).result := by
  induction block generalizing c d number with
  | nil => exact .ok ⟨rfl, hc⟩
  | cons s rest ih =>
    unfold Block.runFrom
    rw [Traced.result_bind, Traced.result_bind]
    -- both runs go on in the same way, since the outcomes are equal and not merely related
    refine (h.run rule hr s (hb s List.mem_cons_self) (h.enterStatement number hc)).bind ?_
    rintro ⟨outcome, c⟩ ⟨-, d⟩ ⟨rfl, hc⟩
    cases outcome with
    | statementContinue =>
      exact ih (fun s hs => hb s (List.mem_cons_of_mem _ hs)) hc (number + 1)
    | _ => exact .ok ⟨rfl, hc⟩

theorem ruleFrom (h : Lockstep book₁ book₂ assertion₁ assertion₂ E R rules) {rule : Rule}
    (hr : rule ∈ rules) {blocks : List Block}
    (hb : ∀ block ∈ blocks, ∀ s ∈ block, s ∈ rule.statements) {c d : Context} (hc : R c d)
    (number : Nat) :
    Alike E (fun x y => x.1 = y.1 ∧ R x.2 y.2) (Rule.runFrom book₁.formats number blocks c).result
      (Rule.runFrom book₂.formats number blocks d).result := by
  induction blocks generalizing c d number with
  | nil => exact .ok ⟨rfl, hc⟩
  | cons block rest ih =>
    unfold Rule.runFrom
    rw [Traced.result_bind, Traced.result_bind]
    refine (h.blockFrom hr (hb block List.mem_cons_self) (h.enterBlock number hc) 0).bind ?_
    rintro ⟨outcome, c⟩ ⟨-, d⟩ ⟨rfl, hc⟩
    have hrest := ih (fun block hm => hb block (List.mem_cons_of_mem _ hm)) hc (number + 1)
    cases outcome with
    | ruleSuccess => exact .ok ⟨rfl, hc⟩
    | ruleFail => exact .ok ⟨rfl, hc⟩
    | statementContinue => exact hrest
    | blockContinue => exact hrest

theorem rule (h : Lockstep book₁ book₂ assertion₁ assertion₂ E R rules) {rule : Rule}
    (hr : rule ∈ rules) {c d : Context} (hc : R c d) :
    Alike E (fun x y => x.1 = y.1 ∧ R x.2 y.2) (rule.run book₁.formats c).result
      (rule.run book₂.formats d).result := by
  unfold Rule.run
  rcases hb : rule.blocks with _ | blocks
  · exact .error h.noBlocks
  · refine h.ruleFrom hr (fun block hm s hs => ?_) hc 0
    simpa only [Rule.statements, hb, Option.getD_some] using List.mem_flatten.2 ⟨block, hm, hs⟩

theorem tryFrom (h : Lockstep book₁ book₂ assertion₁ assertion₂ E R rules) (number : Nat)
    (success : Bool) :
    Alike E Eq (book₁.tryFrom assertion₁ number success rules).result
      (book₂.tryFrom assertion₂ number success rules).result := by
  induction rules generalizing number success with
  | nil => exact .ok rfl
  | cons rule rest ih =>
    unfold RuleBook.tryFrom
    rw [Traced.result_bind, Traced.result_bind]
    have hr : rule ∈ rule :: rest := List.mem_cons_self
    refine (h.rule hr (h.start rule hr number success)).bind ?_
    rintro ⟨outcome, c⟩ ⟨-, d⟩ ⟨rfl, hc⟩
    -- the next rule starts anew, so of `R` only the flags are needed there
    have hrest := ih h.tail (number + 1) c.success
    have hs : c.success = d.success := h.success hc
    cases outcome with
    | ruleSuccess =>
      simp only [Traced.result_bind]
      refine (h.extractClaim rule hr hc).bind ?_
      rintro claim _ rfl
      exact .ok rfl
    | _ =>
      simp only [Traced.result_bind, ← hs]
      exact hrest

end Lockstep
end ClaimRules
