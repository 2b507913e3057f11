import ClaimRules.Proofs.Writes

/-! What a statement leaves as it was. Tests and control leave all bindings, a search leaves all but the
two for its groups, and every other statement writes through its first operand only. -/

namespace ClaimRules

/-- Two collections that differ at most in the item under an index: arrays of one length, or maps with
the same keys in the same order. -/
inductive Value.DifferAt (index : String) : Value → Value → Prop where
  | array {before after : List Value} {i : Nat} (position : integerOf? index = some (i : Int))
      (bound : i < before.length) (length : after.length = before.length)
      (others : ∀ j, j ≠ i → after[j]? = before[j]?) :
      DifferAt index (.array before) (.array after)
  | map {before after : Entries Value} (bound : Entries.hasKey before index = true)
      (keys : Entries.keys after = Entries.keys before)
      (others : ∀ key, key ≠ index → Entries.get? after key = Entries.get? before key) :
      DifferAt index (.map before) (.map after)

theorem Entries.keys_insert_of_get? {α : Type} {entries : Entries α} {key : String} {item : α}
    (h : get? entries key = some item) (value : α) :
    keys (insert key value entries) = keys entries := by
  have hk : key ∈ keys entries := List.mem_map.2 ⟨(key, item), mem_of_get? h, rfl⟩
  rw [keys_insert, if_pos hk]

namespace Reference

variable {r : Reference} {index : String}

theorem position_eq_ok {name : String} {size : Nat} {i : Fin size}
    (h : position name index size = .ok i) : integerOf? index = some ((i : Nat) : Int) := by
  unfold position at h
  split at h
  · cases h
  · next n hn =>
    split at h
    · next hb =>
      cases h
      rw [hn, Int.toNat_of_nonneg hb.1]
    · cases h

theorem slot_differAt {base : Value} {slot : Slot} (h : r.slot base = .ok slot)
    (hi : r.index = some index) (value : Value) : base.DifferAt index (slot.put value) := by
  unfold Reference.slot at h
  simp only [hi] at h
  cases base with
  | array items =>
    rcases hp : position r.name index items.length with e | i
    · simp [hp] at h
    · simp only [hp] at h
      cases h
      refine .array (position_eq_ok hp) i.isLt List.length_set fun j hj => ?_
      exact List.getElem?_set_ne hj.symm
  | map entries =>
    rcases hg : Entries.get? entries index with _ | item
    · simp [hg] at h
    · simp only [hg] at h
      cases h
      refine .map ?_ (Entries.keys_insert_of_get? hg value) fun key hk => ?_
      · rw [Entries.hasKey, hg]
        rfl
      · exact Entries.get?_insert_of_ne hk value entries
  | _ => cases h

theorem slotIn_eq_ok {bindings : Bindings} {slot : Slot} (h : r.slotIn bindings = .ok slot) :
    ∃ base, Entries.get? bindings r.name = some base ∧ r.slot base = .ok slot := by
  unfold slotIn at h
  split at h
  · cases h
  · next base hg => exact ⟨base, hg, h⟩

end Reference

namespace Effect

variable {effect : Effect} {bindings : Bindings} {writes : List (String × Value)}
  {r : Reference}

theorem written_of_passive (h : effect.role = .test ∨ effect.role = .control) :
    effect.written = [] := by
  cases effect with
  | test result => rfl
  | flow outcome => rfl
  | _ => rcases h with h | h <;> cases h

theorem written_of_search (h : effect.role = .search) :
    effect.written = [Bindings.regexpArrayName, Bindings.regexpMapName] := by
  cases effect with
  | search matched groups named => rfl
  | _ => cases h

theorem target?_of_change (h : effect.role = .change) :
    ∃ r, effect.target? = some r ∧ effect.written = [r.name] := by
  cases effect with
  | store target _ => exact ⟨target, rfl, rfl⟩
  | push target _ => exact ⟨target, rfl, rfl⟩
  | _ => cases h

theorem writes_of_index {index : String} (hr : effect.target? = some r)
    (hi : r.index = some index) (h : effect.writes bindings = .ok writes) :
    ∃ old new, Entries.get? bindings r.name = some old ∧ writes = [(r.name, new)] ∧
      old.DifferAt index new := by
  cases effect with
  | store target value =>
    cases hr
    unfold Effect.writes at h
    simp only [hi] at h
    rcases hs : r.slotIn bindings with e | slot
    · simp [hs, Except.map] at h
    · rw [hs] at h
      cases h
      obtain ⟨base, hb, hs⟩ := Reference.slotIn_eq_ok hs
      exact ⟨base, _, hb, rfl, Reference.slot_differAt hs hi value⟩
  | push target item =>
    cases hr
    unfold Effect.writes at h
    obtain ⟨⟨value, put⟩, hs, h⟩ := bind_eq_ok_iff.1 h
    obtain ⟨base, hb, hs⟩ := Reference.slotIn_eq_ok hs
    cases value with
    | array items =>
      cases h
      exact ⟨base, _, hb, rfl, Reference.slot_differAt hs hi _⟩
    | _ => cases h
  | _ => cases hr

end Effect

namespace Statement

/-- All bindings stay where they are and new ones go to the end. Tests and control change none, a
search changes at most those of its groups, and any other verb at most that of its first operand, of
which an index leaves all but one item. -/
theorem execute_frame {s : Statement} {ctx after : Context} {outcome : Outcome}
    (h : s.execute ctx = (.ok outcome, after)) :
    (∃ new, Entries.keys after.bindings = Entries.keys ctx.bindings ++ new) ∧
      ∃ verb, s.verb = .ok verb ∧
        (verb.role = .test ∨ verb.role = .control → after.bindings = ctx.bindings) ∧
        (verb.role = .search → ∀ name,
          name ≠ Bindings.regexpArrayName → name ≠ Bindings.regexpMapName →
            Entries.get? after.bindings name = Entries.get? ctx.bindings name) ∧
        (verb.role = .change → ∃ r, s.target verb 1 = .ok r ∧
          (∀ name, name ≠ r.name →
            Entries.get? after.bindings name = Entries.get? ctx.bindings name) ∧
          ∀ index, r.index = some index →
            ∃ old new, Entries.get? ctx.bindings r.name = some old ∧
              Entries.get? after.bindings r.name = some new ∧ old.DifferAt index new) := by
  obtain ⟨effect, writes, he, hw, -, rfl⟩ := execute_eq_ok_iff.1 h
  obtain ⟨verb, hv, he⟩ := effect_eq_ok_iff.1 he
  have hnames : writes.map Prod.fst = effect.written := Effect.names_of_writes hw
  refine ⟨Bindings.exists_keys_bindAll _ _, verb, hv, ?_⟩
  rw [← role_of_verbEffect he]
  refine ⟨?_, ?_, ?_⟩
  · intro hr
    rw [Effect.written_of_passive hr, List.map_eq_nil_iff] at hnames
    rw [hnames]
    rfl
  · intro hr name ha hm
    refine Bindings.get?_bindAll_of_not_mem ?_ _
    rw [hnames, Effect.written_of_search hr]
    simp [ha, hm]
  · intro hr
    obtain ⟨r, ht, hwritten⟩ := Effect.target?_of_change hr
    refine ⟨r, target_of_verbEffect he ht, fun name hn => ?_, fun index hi => ?_⟩
    · refine Bindings.get?_bindAll_of_not_mem ?_ _
      rw [hnames, hwritten, List.mem_singleton]
      exact hn
    · obtain ⟨old, new, hold, rfl, hd⟩ := Effect.writes_of_index ht hi hw
      exact ⟨old, new, hold, Entries.get?_insert_self .., hd⟩

theorem execute_frame_append :
    let s : Statement := ⟨[.string "append", .string "$assertion[groups]", .string "$assertion"]⟩
    let old : Value := .map [("groups", .array [.null]), ("user", .string "al")]
    let new : Value := .map [("groups", .array [.null, old]), ("user", .string "al")]
    let ctx : Context := ⟨[("rule_name", .string ""), ("assertion", old)], false⟩
    let after : Context := ⟨[("rule_name", .string ""), ("assertion", new)], true⟩
    s.execute ctx = (.ok .statementContinue, after) ∧ old.DifferAt "groups" new := by
  intro s old new ctx after
  have he : s.execute ctx = (.ok .statementContinue, after) := rfl
  refine ⟨he, ?_⟩
  obtain ⟨-, verb, hv, -, -, hchange⟩ := execute_frame he
  have hverb : s.verb = .ok .append := rfl
  rw [hverb] at hv
  cases hv
  obtain ⟨r, ht, -, hindex⟩ := hchange rfl
  have htarget : s.target .append 1 = .ok ⟨"assertion", some "groups"⟩ := rfl
  rw [htarget] at ht
  cases ht
  obtain ⟨before, result, hb, hr, hd⟩ := hindex "groups" rfl
  cases hb
  cases hr
  exact hd

end Statement
end ClaimRules
