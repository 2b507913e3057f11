import ClaimRules.Proofs.ReadFootprint
import ClaimRules.Proofs.Reserved

/-! Changes that have nothing to do with each other. If neither of two statements refers to the variable
that the other one changes, they can be executed in either order. -/

namespace ClaimRules

theorem Effect.outcome_of_change {effect : Effect} (h : effect.role = .change) :
    effect.outcome = .statementContinue := by
  cases effect with
  | flow outcome => cases h
  | _ => rfl

namespace Statement

variable {s : Statement} {r : Reference} {ctx : Context} {effect : Effect}

theorem destination?_eq_some_iff :
    s.destination? = some r ↔
      ∃ verb, s.verb = .ok verb ∧ verb.role = .change ∧ s.target verb 1 = .ok r := by
  unfold destination?
  rcases s.verb with e | verb
  · simp
  · by_cases hr : verb.role = .change
    · rcases ht : s.target verb 1 with e | found <;> simp [hr, ht, Except.toOption]
    · simp [hr]

/-- The variables that a statement refers to, as operands or in a template that it fills in. -/
def referred (s : Statement) : List String := s.references.map Reference.name

theorem destination_mem_referred (h : s.destination? = some r) : r.name ∈ s.referred := by
  obtain ⟨verb, -, -, ht⟩ := destination?_eq_some_iff.1 h
  exact List.mem_map_of_mem (target_mem_references ht)

theorem role_target?_of_effect (hd : s.destination? = some r) (he : s.effect ctx = .ok effect) :
    effect.role = .change ∧ effect.target? = some r := by
  obtain ⟨verb, hv, hrole, ht⟩ := destination?_eq_some_iff.1 hd
  obtain ⟨verb', hv', he⟩ := effect_eq_ok_iff.1 he
  rw [hv] at hv'
  cases hv'
  have hchange : effect.role = .change := (role_of_verbEffect he).trans hrole
  obtain ⟨target, htarget, -⟩ := Effect.target?_of_change hchange
  rw [target_of_verbEffect he htarget] at ht
  cases ht
  exact ⟨hchange, htarget⟩

theorem verbEffect_of_change {verb : Verb} (h : verb.role = .change) (bindings : Bindings)
    (before after : Bool) :
    s.verbEffect verb ⟨bindings, before⟩ = s.verbEffect verb ⟨bindings, after⟩ := by
  unfold verbEffect
  cases verb with
  | exit | skip => cases h
  | _ => rfl

theorem effect_of_change (hd : s.destination? = some r) (bindings : Bindings)
    (before after : Bool) : s.effect ⟨bindings, before⟩ = s.effect ⟨bindings, after⟩ := by
  obtain ⟨verb, hv, hrole, -⟩ := destination?_eq_some_iff.1 hd
  unfold effect
  rw [hv]
  exact verbEffect_of_change hrole bindings before after

theorem exists_bind_of_execute {after : Context} {outcome : Outcome}
    (hd : s.destination? = some r) (h : s.execute ctx = (.ok outcome, after)) :
    ∃ new, ∀ other : Context, Bindings.SameOn s.referred ctx.bindings other.bindings →
      s.execute other = (.ok .statementContinue, ⟨other.bindings.bind r.name new, true⟩) := by
  obtain ⟨effect, writes, he, hw, -, -⟩ := execute_eq_ok_iff.1 h
  obtain ⟨hchange, htarget⟩ := role_target?_of_effect hd he
  -- the destination is all that the effect writes to
  obtain ⟨new, rfl⟩ : ∃ new, writes = [(r.name, new)] := by
    obtain ⟨target, ht, hwritten⟩ := Effect.target?_of_change hchange
    rw [htarget] at ht
    cases ht
    have hnames := Effect.names_of_writes hw
    rw [hwritten] at hnames
    obtain ⟨⟨name, new⟩, rfl, rfl⟩ := List.map_eq_singleton_iff.1 hnames
    exact ⟨new, rfl⟩
  refine ⟨new, fun other hsame => ?_⟩
  have hget : ∀ q ∈ s.references,
      Entries.get? ctx.bindings q.name = Entries.get? other.bindings q.name :=
    fun q hq => hsame q.name (List.mem_map_of_mem hq)
  have heffect : s.effect other = .ok effect := by
    rw [← he, effect_of_change hd other.bindings other.success ctx.success]
    exact effect_congr rfl fun q hq => (Reference.resolve_eq_of_get? (hget q hq)).symm
  have hwrites : effect.writes other.bindings = .ok [(r.name, new)] := by
    rw [← hw]
    exact Effect.writes_eq_of_get? fun q hq => (hget q (target?_mem_references he hq)).symm
  refine execute_eq_ok_iff.2 ⟨effect, _, heffect, hwrites, Effect.outcome_of_change hchange, ?_⟩
  rw [Effect.flag?_of_change hchange]
  rfl

end Statement

theorem Bindings.sameOn_bind {names : List String} {name : String} (h : name ∉ names)
    (bindings : Bindings) (value : Value) : SameOn names bindings (bindings.bind name value) := by
  intro other ho
  have hne : other ≠ name := fun e => h (e ▸ ho)
  rw [get?_bind, if_neg hne]

namespace Statement

/-- Two changes of which neither refers to the destination of the other succeed in one order if they do
so in the other. Both orders leave the same value, or none, for each variable and the same flag; only
the order of variables that are bound for the first time may differ. -/
theorem execute_comm {s t : Statement} {p q : Reference} {ctx mid after : Context}
    {first second : Outcome} (hs : s.destination? = some p) (ht : t.destination? = some q)
    (hp : p.name ∉ t.referred) (hq : q.name ∉ s.referred)
    (hfirst : s.execute ctx = (.ok first, mid)) (hsecond : t.execute mid = (.ok second, after)) :
    ∃ other swapped, t.execute ctx = (.ok second, other) ∧
      s.execute other = (.ok first, swapped) ∧
      (∀ name, Entries.get? swapped.bindings name = Entries.get? after.bindings name) ∧
      swapped.success = after.success := by
  obtain ⟨x, hx⟩ := exists_bind_of_execute hs hfirst
  obtain ⟨y, hy⟩ := exists_bind_of_execute ht hsecond
  have hmid := hx ctx fun _ _ => rfl
  rw [hfirst] at hmid
  cases hmid
  have hafter := hy ⟨ctx.bindings.bind p.name x, true⟩ fun _ _ => rfl
  rw [hsecond] at hafter
  cases hafter
  -- neither statement sees what the other one binds
  have hother := hy ctx fun name hn => (Bindings.sameOn_bind hp ctx.bindings x name hn).symm
  have hswapped := hx ⟨ctx.bindings.bind q.name y, true⟩ (Bindings.sameOn_bind hq ctx.bindings y)
  refine ⟨_, _, hother, hswapped, fun name => ?_, rfl⟩
  have hne : p.name ≠ q.name := fun e => hp (e ▸ destination_mem_referred ht)
  simp only [Bindings.get?_bind]
  by_cases hn : name = p.name
  · rw [if_pos hn, if_neg fun e => hne (hn.symm.trans e), if_pos hn]
  · rw [if_neg hn, if_neg hn]

theorem execute_comm_append :
    let s : Statement := ⟨[.string "append", .string "$assertion[groups]", .string "not $y"]⟩
    let t : Statement := ⟨[.string "unique", .string "$y", .string "$x"]⟩
    let x : Value := .array [.null, .null]
    let assertion (groups : List Value) : Value := .map [("groups", .array groups), ("id", .null)]
    let ctx : Context := ⟨[("x", x), ("assertion", assertion [])], false⟩
    let after : Context :=
      ⟨[("x", x), ("assertion", assertion [.string "not $y"]), ("y", .array [.null])], true⟩
    s.destination? = some ⟨"assertion", some "groups"⟩ ∧ t.destination? = some ⟨"y", none⟩ ∧
      "assertion" ∉ t.referred ∧ "y" ∉ s.referred ∧ (t.execute (s.execute ctx).2).2 = after ∧
      ∃ other swapped, t.execute ctx = (.ok .statementContinue, other) ∧
        s.execute other = (.ok .statementContinue, swapped) ∧
        (∀ name, Entries.get? swapped.bindings name = Entries.get? after.bindings name) ∧
        swapped.success = after.success := by
  intro s t x assertion ctx after
  let mid : Context := ⟨[("x", x), ("assertion", assertion [.string "not $y"])], true⟩
  have hs : s.destination? = some ⟨"assertion", some "groups"⟩ := rfl
  have ht : t.destination? = some ⟨"y", none⟩ := rfl
  have hp : "assertion" ∉ t.referred := by decide +kernel
  have hq : "y" ∉ s.referred := by decide +kernel
  have hfirst : s.execute ctx = (.ok .statementContinue, mid) := rfl
  have hsecond : t.execute mid = (.ok .statementContinue, after) := rfl
  exact ⟨hs, ht, hp, hq, by rw [hfirst, hsecond], execute_comm hs ht hp hq hfirst hsecond⟩

end Statement
end ClaimRules
