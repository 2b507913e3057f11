import ClaimRules.Proofs.Addressing
import ClaimRules.Proofs.Causes

/-! Appending in place. The target is looked up to be read and once more to be written, and in between
the item is read; since nothing is written before, both lookups find the same array. -/

namespace ClaimRules

theorem Reference.exists_place {r : Reference} {bindings : Bindings} {value : Value}
    (h : r.resolve bindings = .ok value) :
    ∃ put, r.slotIn bindings = .ok ⟨value, put⟩ ∧
      r.place bindings = .ok ⟨value, fun new => bindings.bind r.name (put new)⟩ := by
  obtain ⟨⟨value, put⟩, hslot, rfl⟩ := resolve_eq_ok_iff.1 h
  refine ⟨put, hslot, ?_⟩
  rw [place_eq_slotIn, hslot]
  rfl

namespace Effect

variable {r : Reference} {items : List Value} {item : Value} {ctx : Context}

theorem apply_push (h : r.resolve ctx.bindings = .ok (.array items)) :
    (push r item).apply ctx =
      (.ok .statementContinue, ⟨(r.assign (.array (items ++ [item])) ctx.bindings).2, true⟩) := by
  obtain ⟨put, hslot, hplace⟩ := Reference.exists_place h
  rw [Reference.assign_of_slotIn hslot]
  simp only [apply, hplace]

end Effect

namespace Statement

variable {s : Statement} {ctx : Context} {effect : Effect}

theorem effect_append_iff (hv : s.verb = .ok .append) :
    s.effect ctx = .ok effect ↔ ∃ r items item, s.operand? 1 = some (.reference r) ∧
      r.resolve ctx.bindings = .ok (.array items) ∧ s.Yields ctx.bindings 2 item ∧
        .push r item = effect := by
  rw [effect_of_verb hv, append_iff]
  constructor
  · rintro ⟨r, ht, items, ha, item, hitem, he⟩
    have hr : s.operand? 1 = some (.reference r) := target_eq_ok_iff.1 ht
    exact ⟨r, items, item, hr, (yields_reference_iff hr).1 (array_eq_ok_iff.1 ha),
      value_eq_ok_iff.1 hitem, he⟩
  · rintro ⟨r, items, item, hr, ha, hitem, he⟩
    exact ⟨r, target_eq_ok_iff.2 hr, items, array_eq_ok_iff.2 ((yields_reference_iff hr).2 ha), item,
      value_eq_ok_iff.2 hitem, he⟩

/-- What is appended ends up after the items of the target, just as if the longer array were assigned
to it. This takes a target that is an array and an item that has a value, both before the statement,
and nothing else: the array is still there when the item is put. -/
theorem append_assigns_extended (hv : s.verb = .ok .append) :
    ((∃ outcome, (s.execute ctx).1 = .ok outcome) ↔
      ∃ r items item, s.operand? 1 = some (.reference r) ∧
        r.resolve ctx.bindings = .ok (.array items) ∧ s.Yields ctx.bindings 2 item) ∧
    (∀ r items item, s.operand? 1 = some (.reference r) →
      r.resolve ctx.bindings = .ok (.array items) → s.Yields ctx.bindings 2 item →
        s.Stores ctx r (.array (items ++ [item]))) ∧
    (∀ r item, s.effect ctx = .ok (.push r item) →
      ∃ items put, r.place ctx.bindings = .ok ⟨.array items, put⟩) ∧
    ∀ found, (s.execute ctx).1 ≠ .error (.statement (.appendTarget found)) := by
  have hstores : ∀ r items item, s.operand? 1 = some (.reference r) →
      r.resolve ctx.bindings = .ok (.array items) → s.Yields ctx.bindings 2 item →
        s.Stores ctx r (.array (items ++ [item])) := by
    intro r items item hr ha hitem
    have heffect : s.effect ctx = .ok (.push r item) :=
      (effect_append_iff hv).2 ⟨r, items, item, hr, ha, hitem, rfl⟩
    have hassignable : r.Assignable ctx.bindings := .inr ⟨_, ha⟩
    refine ⟨?_, Reference.assign_eq_ok_iff.2 hassignable, Reference.resolve_assign hassignable⟩
    rw [execute, heffect]
    exact Effect.apply_push ha
  -- whatever has been read, the target is an array
  have hplace : ∀ r item, s.effect ctx = .ok (.push r item) →
      ∃ items put, r.place ctx.bindings = .ok ⟨.array items, put⟩ := by
    intro r item heffect
    obtain ⟨_, items, _, hr, ha, -, hpush⟩ := (effect_append_iff hv).1 heffect
    cases hpush
    obtain ⟨put, -, hplace⟩ := Reference.exists_place ha
    exact ⟨items, _, hplace⟩
  refine ⟨⟨?_, ?_⟩, hstores, hplace, ?_⟩
  · rintro ⟨outcome, hok⟩
    obtain ⟨effect, -, heffect, -⟩ := execute_eq_ok_iff.1 (Prod.ext hok rfl)
    obtain ⟨r, items, item, hr, ha, hitem, -⟩ := (effect_append_iff hv).1 heffect
    exact ⟨r, items, item, hr, ha, hitem⟩
  · rintro ⟨r, items, item, hr, ha, hitem⟩
    obtain ⟨hexecute, -, -⟩ := hstores r items item hr ha hitem
    exact ⟨_, congrArg Prod.fst hexecute⟩
  · intro found herror
    rcases heffect : s.effect ctx with e | effect
    · -- the operands have been refused, which is said in other words
      rw [execute, heffect] at herror
      cases herror
      rw [effect_of_verb hv] at heffect
      exact s.failsAs_verbEffect .append ctx _ heffect
    · obtain ⟨r, items, item, hr, ha, hitem, -⟩ := (effect_append_iff hv).1 heffect
      obtain ⟨hexecute, -, -⟩ := hstores r items item hr ha hitem
      rw [hexecute] at herror
      cases herror

theorem append_assigns_extended_aliased :
    let append (target item : String) : Statement :=
      ⟨[.string "append", .string target, .string item]⟩
    let inner : List Value := [.string "a"]
    let items : List Value := [.array inner, .integer 2]
    let entries : Entries Value := [("k", .array inner), ("l", .null)]
    let ctx : Context := ⟨[("xs", .array items), ("m", .map entries)], false⟩
    (append "$xs" "$xs").Stores ctx ⟨"xs", none⟩ (.array (items ++ [.array items])) ∧
      (append "$xs" "$xs[0]").Stores ctx ⟨"xs", none⟩ (.array (items ++ [.array inner])) ∧
      (append "$m[k]" "$m").Stores ctx ⟨"m", some "k"⟩ (.array (inner ++ [.map entries])) ∧
      (append "$m[k]" "$m").execute ctx = (.ok .statementContinue,
        ⟨[("xs", .array items),
          ("m", .map [("k", .array [.string "a", .map entries]), ("l", .null)])], true⟩) := by
  intro append inner items entries ctx
  obtain ⟨-, hself, -, -⟩ :=
    append_assigns_extended (show (append "$xs" "$xs").verb = .ok .append from rfl)
  obtain ⟨-, hitem, -, -⟩ :=
    append_assigns_extended (show (append "$xs" "$xs[0]").verb = .ok .append from rfl)
  obtain ⟨-, hcontainer, -, -⟩ :=
    append_assigns_extended (show (append "$m[k]" "$m").verb = .ok .append from rfl)
  have hmap : (append "$m[k]" "$m").Stores ctx ⟨"m", some "k"⟩ (.array (inner ++ [.map entries])) :=
    hcontainer _ inner _ rfl rfl ⟨.reference ⟨"m", none⟩, rfl, rfl⟩
  exact ⟨hself _ items _ rfl rfl ⟨.reference ⟨"xs", none⟩, rfl, rfl⟩,
    hitem _ items _ rfl rfl ⟨.reference ⟨"xs", some "0"⟩, rfl, rfl⟩, hmap, hmap.1⟩

end Statement
end ClaimRules
