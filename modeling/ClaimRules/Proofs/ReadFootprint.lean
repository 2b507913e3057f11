import ClaimRules.Proofs.References
import ClaimRules.Proofs.Writes

/-! What a statement reads. It depends on the variables that its operands mention, on the success flag
and on nothing else: in two contexts that agree on these it answers the same and leaves the same. -/

namespace ClaimRules

def Value.templateReferences : Value → List Reference
  | .string text => Template.references text
  | _ => []

namespace Statement

/-- The variables that an operand mentions: that of a reference which it consists of, and those of
references which it holds. -/
def mentions (s : Statement) : List String :=
  s.items.tail.flatMap fun item =>
    ((Operand.ofValue item).references ++ item.templateReferences).map Reference.name

theorem name_mem_mentions {s : Statement} {r : Reference} (h : r ∈ s.references) :
    r.name ∈ s.mentions := by
  rcases List.mem_append.1 h with h | h
  · obtain ⟨item, hi, hr⟩ := List.mem_flatMap.1 h
    exact List.mem_flatMap.2 ⟨item, hi, List.mem_map_of_mem (List.mem_append_left _ hr)⟩
  · unfold templateReferences at h
    split at h
    · next text _ hi =>
      have hm : Value.string text ∈ s.items.tail := by
        rw [← List.getElem?_tail] at hi
        exact List.mem_of_getElem? hi
      refine List.mem_flatMap.2 ⟨_, hm, List.mem_map_of_mem (List.mem_append_right _ h)⟩
    · cases h

end Statement

def Bindings.SameOn (names : List String) (b₁ b₂ : Bindings) : Prop :=
  ∀ name ∈ names, Entries.get? b₁ name = Entries.get? b₂ name

/-- Two changes of bindings: each variable is left alone by both, or the same after both. -/
def Bindings.SameChange (b₁ b₁' b₂ b₂' : Bindings) : Prop :=
  ∀ name, Entries.get? b₁' name = Entries.get? b₁ name ∧
      Entries.get? b₂' name = Entries.get? b₂ name ∨
    Entries.get? b₁' name = Entries.get? b₂' name

theorem Bindings.sameChange_bindAll (writes : List (String × Value)) (b₁ b₂ : Bindings) :
    SameChange b₁ (b₁.bindAll writes) b₂ (b₂.bindAll writes) := by
  intro name
  by_cases h : name ∈ writes.map Prod.fst
  · exact .inr (get?_bindAll_of_mem h b₁ b₂)
  · exact .inl ⟨get?_bindAll_of_not_mem h b₁, get?_bindAll_of_not_mem h b₂⟩

theorem Reference.resolve_eq_of_get? {r : Reference} {b₁ b₂ : Bindings}
    (h : Entries.get? b₁ r.name = Entries.get? b₂ r.name) : r.resolve b₁ = r.resolve b₂ := by
  simp only [resolve, h]

theorem Effect.writes_eq_of_get? {effect : Effect} {b₁ b₂ : Bindings}
    (h : ∀ r, effect.target? = some r → Entries.get? b₁ r.name = Entries.get? b₂ r.name) :
    effect.writes b₁ = effect.writes b₂ := by
  cases effect with
  | store target value => simp only [writes, Reference.slotIn, h target rfl]
  | push target item => simp only [writes, Reference.slotIn, h target rfl]
  | _ => rfl

namespace Statement

/-- In two contexts with one success flag that agree on the variables which a statement mentions, it
has the same outcome or error and leaves the same flag, and each variable is left alone in both or has
the same value in both. -/
theorem execute_sameChange {s : Statement} {c d : Context} (hs : c.success = d.success)
    (h : Bindings.SameOn s.mentions c.bindings d.bindings) :
    (s.execute c).1 = (s.execute d).1 ∧ (s.execute c).2.success = (s.execute d).2.success ∧
      Bindings.SameChange c.bindings (s.execute c).2.bindings d.bindings
        (s.execute d).2.bindings := by
  have hget : ∀ r ∈ s.references,
      Entries.get? c.bindings r.name = Entries.get? d.bindings r.name :=
    fun r hr => h r.name (name_mem_mentions hr)
  have heffect : s.effect c = s.effect d :=
    effect_congr hs fun r hr => Reference.resolve_eq_of_get? (hget r hr)
  unfold execute
  rw [← heffect]
  rcases he : s.effect c with e | effect
  · exact ⟨rfl, hs, fun _ => .inl ⟨rfl, rfl⟩⟩
  · -- what is written may depend on what the destination was bound to
    have hwrites : effect.writes c.bindings = effect.writes d.bindings :=
      Effect.writes_eq_of_get? fun r ht => hget r (target?_mem_references he ht)
    simp only [Effect.apply_eq, ← hwrites, ← hs]
    rcases effect.writes c.bindings with e | writes
    · exact ⟨rfl, hs, fun _ => .inl ⟨rfl, rfl⟩⟩
    · exact ⟨rfl, rfl, Bindings.sameChange_bindAll writes c.bindings d.bindings⟩

theorem execute_sameChange_interpolate :
    let s : Statement :=
      ⟨[.string "interpolate", .string "$xs[0]", .string "mail: $\x7buser[mail]\x7d"]⟩
    let xs : Value := .array [.null, .integer 1]
    let user : Value := .map [("mail", .string "a@b"), ("id", .null)]
    let c : Context := ⟨[("xs", xs), ("user", user), ("regexp_array", .array [])], false⟩
    let d : Context := ⟨[("user", user), ("other", .integer 7), ("xs", xs)], false⟩
    c.success = d.success ∧ Bindings.SameOn s.mentions c.bindings d.bindings ∧
      (s.execute c).1 = (s.execute d).1 ∧ (s.execute c).2.success = (s.execute d).2.success ∧
        Bindings.SameChange c.bindings (s.execute c).2.bindings d.bindings
          (s.execute d).2.bindings := by
  intro s xs user c d
  have hs : c.success = d.success := rfl
  have hm : s.mentions = ["xs", "xs", "user"] := by decide +kernel
  have h : Bindings.SameOn s.mentions c.bindings d.bindings := by
    rw [hm]
    intro name hn
    simp only [List.mem_cons, List.not_mem_nil, or_false, or_self_left] at hn
    rcases hn with rfl | rfl <;> rfl
  exact ⟨hs, h, execute_sameChange hs h⟩

end Statement
end ClaimRules
