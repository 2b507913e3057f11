import ClaimRules.Execution

/-! Statements are atomic: one that fails leaves the bindings and the success flag as they were. -/

namespace ClaimRules

namespace Reference

theorem assign_error {r : Reference} {value : Value} {bindings : Bindings} {e : Error}
    (h : (r.assign value bindings).1 = .error e) : (r.assign value bindings).2 = bindings := by
  unfold assign at h ⊢
  rcases hr : r.index with _ | index
  · simp [hr] at h
  · rcases hp : r.place bindings with e' | place
    · rfl
    · simp [hr, hp] at h

end Reference

namespace Effect

/-- The only effects that can fail write through a reference, and they fail before they write. -/
theorem apply_error {effect : Effect} {ctx : Context} {e : Error}
    (h : (effect.apply ctx).1 = .error e) : (effect.apply ctx).2 = ctx := by
  cases effect with
  | store target value =>
    rcases hr : target.assign value ctx.bindings with ⟨e' | _, bindings⟩
    · -- the flag is only set after the write has succeeded
      have hb : bindings = ctx.bindings := by
        simpa only [hr] using target.assign_error (congrArg Prod.fst hr)
      simp only [apply, hr, hb]
    · simp [apply, hr] at h
  | push target item =>
    unfold apply at h ⊢
    rcases hp : target.place ctx.bindings with e' | place
    · simp only [hp]
    · rcases hv : place.value with _ | items | _ | _ | _ | _ | _ <;>
        simp only [hp, hv, reduceCtorEq] at h ⊢
  | test result => simp [apply] at h
  | search matched groups named => simp [apply] at h
  | flow outcome => rfl

end Effect

namespace Statement

theorem execute_eq_of_error {s : Statement} {ctx : Context} {e : Error}
    (h : (s.execute ctx).1 = .error e) : s.execute ctx = (.error e, ctx) := by
  refine Prod.ext h ?_
  unfold execute at h ⊢
  rcases he : s.effect ctx with e' | effect
  · rfl
  · simp only [he] at h ⊢
    exact Effect.apply_error h

/-- Whatever a statement is made of, if it fails then the context afterwards is the one before. -/
theorem execute_atomic {s : Statement} {ctx : Context} {e : Error}
    (h : (s.execute ctx).1 = .error e) : (s.execute ctx).2 = ctx := by
  rw [execute_eq_of_error h]

theorem execute_atomic_store :
    let s : Statement := ⟨[.string "set", .string "$xs[5]", .string "$y"]⟩
    let ctx : Context := ⟨[("xs", .array [.null]), ("y", .boolean true)], false⟩
    (s.execute ctx).1 = .error (.lookup (.outOfBounds "xs" 1 5)) ∧ (s.execute ctx).2 = ctx :=
  ⟨rfl, execute_atomic rfl⟩

end Statement
end ClaimRules
