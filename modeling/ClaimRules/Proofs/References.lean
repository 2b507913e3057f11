import ClaimRules.Evaluation
import ClaimRules.Proofs.VerbEffects

/-! The references that a program makes. What a statement does depends on the bindings only through
the values of the references that it makes. -/

namespace ClaimRules

namespace Template

def references (text : String) : List Reference := (occurrences text).map Occurrence.reference

theorem reference_mem_of_piece {r : Reference} {chars : List Char} {pieces : List Piece}
    (start : Nat) (h : Piece.reference r chars ∈ pieces) :
    r ∈ (occurrencesFrom start pieces).map Occurrence.reference := by
  induction pieces generalizing start with
  | nil => simp at h
  | cons piece rest ih =>
    rcases List.mem_cons.1 h with rfl | hr
    · simp [occurrencesFrom]
    · cases piece with
      | plain chars => exact ih _ hr
      | reference r' chars => exact List.mem_cons_of_mem _ (ih _ hr)

theorem fillPieces_congr {ε : Type} {find₁ find₂ : Reference → Except ε String}
    {pieces : List Piece}
    (h : ∀ r chars, Piece.reference r chars ∈ pieces → find₁ r = find₂ r) :
    fillPieces find₁ pieces = fillPieces find₂ pieces := by
  induction pieces with
  | nil => rfl
  | cons piece rest ih =>
    have ih := ih fun r chars hr => h r chars (List.mem_cons_of_mem _ hr)
    cases piece with
    | plain chars => simp only [fillPieces, ih]
    | reference r chars => simp only [fillPieces, ih, h r chars List.mem_cons_self]

theorem substitute_congr {text : String} {b₁ b₂ : Bindings}
    (h : ∀ r ∈ references text, r.resolve b₁ = r.resolve b₂) :
    substitute text b₁ = substitute text b₂ := by
  unfold substitute
  rw [fillPieces_congr fun r chars hr => ?_]
  rw [h r (reference_mem_of_piece 0 hr)]

end Template

def Operand.references : Operand → List Reference
  | .constant _ => []
  | .reference r => [r]

theorem Operand.resolve_congr {operand : Operand} {b₁ b₂ : Bindings}
    (h : ∀ r ∈ operand.references, r.resolve b₁ = r.resolve b₂) :
    operand.resolve b₁ = operand.resolve b₂ := by
  cases operand with
  | constant value => rfl
  | reference r => exact h r List.mem_cons_self

namespace Statement

def templateReferences (s : Statement) : List Reference :=
  match s.verb, (s.items[2]? : Option Value) with
  | .ok .interpolate, some (.string text) => Template.references text
  | _, _ => []

/-- The references that a statement makes: the verb is no operand, all other items are. -/
def references (s : Statement) : List Reference :=
  s.items.tail.flatMap (fun item => (Operand.ofValue item).references) ++ s.templateReferences

variable {s : Statement} {verb : Verb} {b₁ b₂ : Bindings}

theorem item_eq_ok_iff {index : Nat} {value : Value} :
    s.item verb index = .ok value ↔ s.items[index]? = some value := by
  unfold item
  cases s.items[index]? <;> simp

theorem operand_references_subset {index : Nat} {value : Value}
    (h : s.item verb (index + 1) = .ok value) {r : Reference}
    (hr : r ∈ (Operand.ofValue value).references) : r ∈ s.references := by
  rw [item_eq_ok_iff, ← List.getElem?_tail] at h
  exact List.mem_append_left _ (List.mem_flatMap.2 ⟨value, List.mem_of_getElem? h, hr⟩)

theorem target_mem_references {index : Nat} {r : Reference}
    (h : s.target verb (index + 1) = .ok r) : r ∈ s.references := by
  obtain ⟨value, hv, h⟩ := bind_eq_ok_iff.1 h
  rcases ho : Operand.ofValue value with _ | r'
  · simp [ho, throw_ne_ok] at h
  · simp only [ho, pure_eq_ok_iff] at h
    subst h
    exact operand_references_subset hv (by simp [ho, Operand.references])

theorem template_references_subset {text : String} (hv : s.verb = .ok .interpolate)
    (h : s.rawString verb 2 = .ok text) {r : Reference} (hr : r ∈ Template.references text) :
    r ∈ s.references := by
  obtain ⟨value, hi, h⟩ := bind_eq_ok_iff.1 h
  rw [item_eq_ok_iff] at hi
  rcases value with found | _ | _ | _ | _ | _ | _ <;>
    simp only [pure_eq_ok_iff, throw_ne_ok] at h
  subst h
  exact List.mem_append_right _ (by simpa only [templateReferences, hv, hi] using hr)

theorem value_congr (h : ∀ r ∈ s.references, r.resolve b₁ = r.resolve b₂) (verb : Verb)
    (index : Nat) : s.value verb (index + 1) b₁ = s.value verb (index + 1) b₂ := by
  unfold value
  rcases hv : s.item verb (index + 1) with e | value
  · rfl
  · exact Operand.resolve_congr fun r hr => h r (operand_references_subset hv hr)

theorem string_congr (h : ∀ r ∈ s.references, r.resolve b₁ = r.resolve b₂) (verb : Verb)
    (index : Nat) : s.string verb (index + 1) b₁ = s.string verb (index + 1) b₂ := by
  simp only [string, value_congr h]

theorem array_congr (h : ∀ r ∈ s.references, r.resolve b₁ = r.resolve b₂) (verb : Verb)
    (index : Nat) : s.array verb (index + 1) b₁ = s.array verb (index + 1) b₂ := by
  simp only [array, value_congr h]

theorem criteria_congr (h : ∀ r ∈ s.references, r.resolve b₁ = r.resolve b₂) (verb : Verb)
    (index : Nat) : s.criteria verb (index + 1) b₁ = s.criteria verb (index + 1) b₂ := by
  simp only [criteria, string_congr h]

theorem effect_congr {c₁ c₂ : Context} (hs : c₁.success = c₂.success)
    (h : ∀ r ∈ s.references, r.resolve c₁.bindings = r.resolve c₂.bindings) :
    s.effect c₁ = s.effect c₂ := by
  unfold effect
  rcases hv : s.verb with e | verb
  · rfl
  · change s.verbEffect verb c₁ = s.verbEffect verb c₂
    have hval := value_congr h verb
    have hstr := string_congr h verb
    have harr := array_congr h verb
    have hcri := criteria_congr h verb
    cases verb with
    -- the only verb that makes references apart from its operands
    | interpolate =>
      rcases ht : s.rawString .interpolate 2 with e | text
      · simp only [verbEffect, ht]
        rfl
      · have hsub : Template.substitute text c₁.bindings = Template.substitute text c₂.bindings :=
          Template.substitute_congr fun r hr => h r (template_references_subset hv ht hr)
        simp only [verbEffect, ht]
        simp only [bind, Except.bind, hsub]
    | _ =>
      simp only [verbEffect, foldCase, membership, hval, hstr, harr, hcri, hs]

theorem target?_mem_references {ctx : Context} {effect : Effect} {r : Reference}
    (h : s.effect ctx = .ok effect) (hr : effect.target? = some r) : r ∈ s.references := by
  obtain ⟨verb, -, h⟩ := bind_eq_ok_iff.1 h
  exact target_mem_references (target_of_verbEffect h hr)

end Statement
end ClaimRules
