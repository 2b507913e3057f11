import ClaimRules.Proofs.Formats
import ClaimRules.Proofs.Operands

/-! The errors of single statements. They are bare causes, and those of its verb, of its operands and of
its writes are told apart; the statement that they arise in is only named by the evaluation. -/

namespace ClaimRules

def Error.IsCause : Error → Prop
  | .inItem _ _ => False
  | .inStatement _ _ _ => False
  | .inMapping _ _ _ _ => False
  | _ => True

def Error.OfVerb : Error → Prop
  | .statement .noVerb => True
  | .statement (.verbKind _) => True
  | .statement (.unknownVerb _) => True
  | _ => False

def Error.OfWrites : Error → Prop
  | .lookup _ => True
  | .statement (.appendTarget _) => True
  | _ => False

def Error.OfOperands : Error → Prop
  | .lookup _ => True
  | .statement .noVerb => False
  | .statement (.verbKind _) => False
  | .statement (.unknownVerb _) => False
  | .statement (.appendTarget _) => False
  | .statement _ => True
  | _ => False

def FailsAs (P : Error → Prop) {α : Type} (x : Except Error α) : Prop := ∀ e, x = .error e → P e

namespace FailsAs

variable {α β : Type} {P : Error → Prop}

theorem ok (a : α) : FailsAs P (.ok a) := fun _ h => by cases h

theorem pure (a : α) : FailsAs P (Pure.pure a : Except Error α) := ok a

theorem error {e : Error} (h : P e) : FailsAs P (.error e : Except Error α) := by
  rintro _ ⟨⟩
  exact h

theorem throw {e : Error} (h : P e) : FailsAs P (MonadExcept.throw e : Except Error α) :=
  error h

theorem bind {x : Except Error α} {f : α → Except Error β} (hx : FailsAs P x)
    (hf : ∀ a, FailsAs P (f a)) : FailsAs P (x >>= f) := by
  rcases x with e | a
  · exact error (hx e rfl)
  · exact hf a

theorem map {x : Except Error α} (hx : FailsAs P x) (f : α → β) : FailsAs P (x.map f) := by
  rcases x with e | a
  · exact error (hx e rfl)
  · exact ok (f a)

end FailsAs

theorem Reference.failsAs_resolve (r : Reference) (bindings : Bindings) :
    FailsAs Error.OfOperands (r.resolve bindings) := by
  intro e h
  obtain ⟨fault, rfl⟩ := resolve_error h
  trivial

theorem Operand.failsAs_resolve (operand : Operand) (bindings : Bindings) :
    FailsAs Error.OfOperands (operand.resolve bindings) := by
  cases operand with
  | constant value => exact .ok value
  | reference r => exact r.failsAs_resolve bindings

theorem Template.failsAs_substitute (text : String) (bindings : Bindings) :
    FailsAs Error.OfOperands (Template.substitute text bindings) := by
  intro e h
  obtain ⟨fault, rfl⟩ := substitute_error h
  trivial

namespace Statement

variable (s : Statement) (verb : Verb) (index : Nat) (bindings : Bindings)

theorem failsAs_item : FailsAs Error.OfOperands (s.item verb index) := by
  unfold item
  split
  · exact .ok _
  · exact .error trivial

theorem failsAs_target : FailsAs Error.OfOperands (s.target verb index) := by
  refine (s.failsAs_item verb index).bind fun item => ?_
  split
  · exact .pure _
  · exact .throw trivial

theorem failsAs_value : FailsAs Error.OfOperands (s.value verb index bindings) :=
  (s.failsAs_item verb index).bind fun item => (Operand.ofValue item).failsAs_resolve bindings

theorem failsAs_string : FailsAs Error.OfOperands (s.string verb index bindings) := by
  refine (s.failsAs_value verb index bindings).bind fun value => ?_
  split
  · exact .pure _
  · exact .throw trivial

theorem failsAs_array : FailsAs Error.OfOperands (s.array verb index bindings) := by
  refine (s.failsAs_value verb index bindings).bind fun value => ?_
  split
  · exact .pure _
  · exact .throw trivial

theorem failsAs_rawString : FailsAs Error.OfOperands (s.rawString verb index) := by
  refine (s.failsAs_item verb index).bind fun item => ?_
  split
  · exact .pure _
  · exact .throw trivial

theorem failsAs_criteria : FailsAs Error.OfOperands (s.criteria verb index bindings) := by
  refine (s.failsAs_string verb index bindings).bind fun name => ?_
  split
  · exact .pure _
  · exact .throw trivial

theorem failsAs_compilePattern (pattern : String) :
    FailsAs Error.OfOperands (compilePattern verb pattern) := by
  unfold compilePattern
  split
  · exact .ok _
  · exact .error trivial

theorem failsAs_compareValues (left : Value) (operator : String) (right : Value) :
    FailsAs Error.OfOperands (compareValues left operator right) := by
  unfold compareValues
  split
  · exact .ok _
  · exact .ok _
  · split
    · exact .error trivial
    · split
      · exact .error trivial
      · exact .ok _

theorem failsAs_foldCase (fold : String → String) :
    FailsAs Error.OfOperands (s.foldCase verb fold bindings) := by
  refine (s.failsAs_target verb 1).bind fun r => ?_
  refine (s.failsAs_value verb 2 bindings).bind fun value => ?_
  split
  · exact .pure _
  · split
    · exact .pure _
    · exact .throw trivial
  · exact .pure _
  · exact .throw trivial

theorem failsAs_membership (negated : Bool) :
    FailsAs Error.OfOperands (s.membership verb negated bindings) := by
  refine (s.failsAs_value verb 1 bindings).bind fun member => ?_
  refine (s.failsAs_value verb 2 bindings).bind fun collection => ?_
  split
  · split
    · exact .pure _
    · exact .throw trivial
  · exact .throw trivial

theorem failsAs_verbEffect (ctx : Context) : FailsAs Error.OfOperands (s.verbEffect verb ctx) := by
  cases verb with
  | set =>
    exact (s.failsAs_target .set 1).bind fun r =>
      (s.failsAs_value .set 2 ctx.bindings).bind fun value => .pure _
  | length =>
    refine (s.failsAs_target .length 1).bind fun r =>
      (s.failsAs_value .length 2 ctx.bindings).bind fun value => ?_
    split
    · exact .pure _
    · exact .throw trivial
  | interpolate =>
    exact (s.failsAs_target .interpolate 1).bind fun r =>
      (s.failsAs_rawString .interpolate 2).bind fun template =>
        (Template.failsAs_substitute template ctx.bindings).bind fun text => .pure _
  | append =>
    exact (s.failsAs_target .append 1).bind fun r =>
      (s.failsAs_array .append 1 ctx.bindings).bind fun items =>
        (s.failsAs_value .append 2 ctx.bindings).bind fun item => .pure _
  | unique =>
    exact (s.failsAs_target .unique 1).bind fun r =>
      (s.failsAs_array .unique 2 ctx.bindings).bind fun items => .pure _
  | split =>
    exact (s.failsAs_target .split 1).bind fun r =>
      (s.failsAs_string .split 2 ctx.bindings).bind fun text =>
        (s.failsAs_string .split 3 ctx.bindings).bind fun pattern =>
          (failsAs_compilePattern .split pattern).bind fun re => .pure _
  | join =>
    exact (s.failsAs_target .join 1).bind fun r =>
      (s.failsAs_array .join 2 ctx.bindings).bind fun items =>
        (s.failsAs_string .join 3 ctx.bindings).bind fun conjunction => .pure _
  | lower => exact s.failsAs_foldCase .lower ctx.bindings _
  | upper => exact s.failsAs_foldCase .upper ctx.bindings _
  | member => exact s.failsAs_membership .member ctx.bindings _
  | notMember => exact s.failsAs_membership .notMember ctx.bindings _
  | compare =>
    refine (s.failsAs_value .compare 1 ctx.bindings).bind fun left =>
      (s.failsAs_string .compare 2 ctx.bindings).bind fun operator =>
        (s.failsAs_value .compare 3 ctx.bindings).bind fun right => ?_
    split
    · exact (failsAs_compareValues left operator right).bind fun result => .pure _
    · exact .throw trivial
  | regexp =>
    exact (s.failsAs_string .regexp 1 ctx.bindings).bind fun text =>
      (s.failsAs_string .regexp 2 ctx.bindings).bind fun pattern =>
        (failsAs_compilePattern .regexp pattern).bind fun re => .pure _
  | regexpReplace =>
    exact (s.failsAs_string .regexpReplace 2 ctx.bindings).bind fun text =>
      (s.failsAs_string .regexpReplace 3 ctx.bindings).bind fun pattern =>
        (s.failsAs_string .regexpReplace 4 ctx.bindings).bind fun replacement =>
          (failsAs_compilePattern .regexpReplace pattern).bind fun re =>
            (s.failsAs_target .regexpReplace 1).bind fun r => .pure _
  | exit =>
    refine (s.failsAs_string .exit 1 ctx.bindings).bind fun status => ?_
    split
    · exact .throw trivial
    · exact (s.failsAs_criteria .exit 2 ctx.bindings).bind fun c => .pure _
  | skip => exact (s.failsAs_criteria .skip 1 ctx.bindings).bind fun c => .pure _

theorem failsAs_verb : FailsAs Error.OfVerb s.verb := by
  unfold Statement.verb
  split
  · exact .error trivial
  · split
    · exact .ok _
    · exact .error trivial
  · exact .error trivial

end Statement

theorem Reference.failsAs_slotIn (r : Reference) (bindings : Bindings) :
    FailsAs Error.OfWrites (r.slotIn bindings) := by
  intro e h
  -- a slot is missing where the value is
  have hr : r.resolve bindings = .error e := by
    rw [← r.map_value_slotIn, h]
    rfl
  obtain ⟨fault, rfl⟩ := resolve_error hr
  trivial

theorem Effect.failsAs_writes (effect : Effect) (bindings : Bindings) :
    FailsAs Error.OfWrites (effect.writes bindings) := by
  cases effect with
  | store target value =>
    rcases hi : target.index with _ | index
    · simp only [Effect.writes, hi]
      exact .ok _
    · simp only [Effect.writes, hi]
      exact (target.failsAs_slotIn bindings).map _
  | push target item =>
    refine (target.failsAs_slotIn bindings).bind fun slot => ?_
    split
    · exact .pure _
    · exact .throw trivial
  | _ => exact .ok _

namespace Error

variable {e : Error}

theorem OfVerb.isCause (h : e.OfVerb) : e.IsCause := by
  cases e <;> trivial

theorem OfOperands.isCause (h : e.OfOperands) : e.IsCause := by
  cases e <;> trivial

theorem OfWrites.isCause (h : e.OfWrites) : e.IsCause := by
  cases e <;> trivial

end Error

namespace Statement

variable {s : Statement} {ctx : Context} {e : Error}

inductive Failure (s : Statement) (ctx : Context) (e : Error) : Prop where
  | verb (hv : s.verb = .error e) (he : e.OfVerb)
  | operands {verb : Verb} (hv : s.verb = .ok verb) (h : s.verbEffect verb ctx = .error e)
      (he : e.OfOperands)
  | writes {verb : Verb} {effect : Effect} (hv : s.verb = .ok verb)
      (h : s.verbEffect verb ctx = .ok effect) (hw : effect.writes ctx.bindings = .error e)
      (he : e.OfWrites)

theorem failure_of_execute (h : (s.execute ctx).1 = .error e) : s.Failure ctx e := by
  rcases hv : s.verb with d | verb
  · have hexecute : s.execute ctx = (.error d, ctx) := by
      rw [execute, effect, hv]
      rfl
    rw [hexecute] at h
    cases h
    exact .verb hv (s.failsAs_verb _ hv)
  have heffect : s.effect ctx = s.verbEffect verb ctx := effect_of_verb hv
  rcases he : s.verbEffect verb ctx with d | effect
  · rw [execute, heffect, he] at h
    cases h
    exact .operands hv he (s.failsAs_verbEffect verb ctx _ he)
  rw [execute, heffect, he] at h
  simp only [Effect.apply_eq] at h
  rcases hw : effect.writes ctx.bindings with d | writes
  · rw [hw] at h
    cases h
    exact .writes hv he hw (effect.failsAs_writes ctx.bindings _ hw)
  · rw [hw] at h
    cases h

theorem isCause_of_execute (h : (s.execute ctx).1 = .error e) : e.IsCause := by
  cases failure_of_execute h with
  | verb _ he => exact he.isCause
  | operands _ _ he => exact he.isCause
  | writes _ _ _ he => exact he.isCause

end Statement
end ClaimRules
