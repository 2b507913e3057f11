import ClaimRules.Trace

/-! Results of evaluation: when a chain of steps succeeds, and how two results compare. -/

namespace ClaimRules

variable {α β : Type}

theorem bind_eq_ok_iff {ε : Type} {x : Except ε α} {f : α → Except ε β} {b : β} :
    (x >>= f) = .ok b ↔ ∃ a, x = .ok a ∧ f a = .ok b := by
  cases x <;> simp [bind, Except.bind]

theorem pure_eq_ok_iff {a b : α} : (pure a : Except Error α) = .ok b ↔ a = b := by
  simp [pure, Except.pure]

theorem throw_ne_ok {e : Error} {a : α} : ¬(throw e : Except Error α) = .ok a := by
  simp [throw, throwThe, MonadExceptOf.throw]

theorem Traced.bind_congr_of_result {first : Traced α} {f g : α → Traced β}
    (h : ∀ a, first.result = .ok a → f a = g a) : first >>= f = first >>= g := by
  change andThen first f = andThen first g
  unfold andThen
  rcases hr : first.result with e | a
  · rfl
  · simp only [h a hr]

inductive Alike (E : Error → Error → Prop) (R : α → α → Prop) :
    Except Error α → Except Error α → Prop where
  | ok {a b : α} (h : R a b) : Alike E R (.ok a) (.ok b)
  | error {d e : Error} (h : E d e) : Alike E R (.error d) (.error e)

namespace Alike

variable {E : Error → Error → Prop} {R : α → α → Prop} {S : β → β → Prop}

theorem elim {x y : Except Error α} (h : Alike E R x y) :
    (∃ a b, x = .ok a ∧ y = .ok b ∧ R a b) ∨ ∃ d e, x = .error d ∧ y = .error e ∧ E d e := by
  cases h with
  | ok h => exact .inl ⟨_, _, rfl, rfl, h⟩
  | error h => exact .inr ⟨_, _, rfl, rfl, h⟩

theorem bind {x y : Except Error α} {f g : α → Except Error β} (h : Alike E R x y)
    (hfg : ∀ a b, R a b → Alike E S (f a) (g b)) : Alike E S (x >>= f) (y >>= g) := by
  cases h with
  | ok h => exact hfg _ _ h
  | error h => exact .error h

theorem refl (hE : ∀ e, E e e) (hR : ∀ a, R a a) (x : Except Error α) : Alike E R x x := by
  cases x with
  | error e => exact .error (hE e)
  | ok a => exact .ok (hR a)

theorem eq {x y : Except Error α} (h : Alike Eq Eq x y) : x = y := by
  cases h with
  | ok h => exact congrArg _ h
  | error h => exact congrArg _ h

end Alike
end ClaimRules
