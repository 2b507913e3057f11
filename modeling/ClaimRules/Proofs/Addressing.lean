import ClaimRules.Proofs.Atomicity
import ClaimRules.Proofs.Operands
import ClaimRules.Proofs.WriteFrame

/-! Reading and writing through references. Both find the same place, what is written is what is read
afterwards, and only the last of two writes counts. -/

namespace ClaimRules

theorem Entries.insert_of_get? {α : Type} {entries : Entries α} {key : String} {value : α}
    (h : get? entries key = some value) : insert key value entries = entries := by
  induction entries with
  | nil => cases h
  | cons entry rest ih =>
    obtain ⟨k, v⟩ := entry
    unfold get? at h
    split at h
    · next hk =>
      rw [← Option.some.inj h, insert, if_pos hk]
    · next hk => rw [insert, if_neg hk, ih h]

theorem Entries.insert_insert {α : Type} (key : String) (first second : α) (entries : Entries α) :
    insert key second (insert key first entries) = insert key second entries := by
  induction entries with
  | nil => simp [insert]
  | cons entry rest ih =>
    obtain ⟨k, v⟩ := entry
    by_cases hk : k = key
    · simp [insert, hk]
    · simp [insert, hk, ih]

def Statement.Stores (s : Statement) (ctx : Context) (r : Reference) (value : Value) : Prop :=
  s.execute ctx = (.ok .statementContinue, ⟨(r.assign value ctx.bindings).2, true⟩) ∧
    (r.assign value ctx.bindings).1 = .ok () ∧
    r.resolve (r.assign value ctx.bindings).2 = .ok value

namespace Reference

variable {r : Reference} {base : Value} {slot : Slot} {bindings : Bindings}

theorem position_of_length_eq {name index : String} {size other : Nat} {i : Fin size}
    (h : position name index size = .ok i) (hs : size = other) :
    position name index other = .ok (i.cast hs) := by
  subst hs
  exact h

theorem put_value_of_slot (h : r.slot base = .ok slot) : slot.put slot.value = base := by
  unfold Reference.slot at h
  rcases hi : r.index with _ | index
  · simp only [hi] at h
    cases h
    rfl
  simp only [hi] at h
  cases base with
  | array items =>
    rcases hp : position r.name index items.length with e | i
    · simp [hp] at h
    · simp only [hp] at h
      cases h
      exact congrArg Value.array (List.set_getElem_self i.isLt)
  | map entries =>
    rcases hg : Entries.get? entries index with _ | item
    · simp [hg] at h
    · simp only [hg] at h
      cases h
      exact congrArg Value.map (Entries.insert_of_get? hg)
  | _ => cases h

theorem slot_put (h : r.slot base = .ok slot) (value : Value) :
    r.slot (slot.put value) = .ok ⟨value, slot.put⟩ := by
  unfold Reference.slot at h ⊢
  rcases hi : r.index with _ | index
  · simp only [hi] at h
    cases h
    rfl
  simp only [hi] at h ⊢
  cases base with
  | array items =>
    rcases hp : position r.name index items.length with e | i
    · simp [hp] at h
    · simp only [hp] at h
      cases h
      have hlength : items.length = (items.set i value).length := List.length_set.symm
      simp only [position_of_length_eq hp hlength, List.get_eq_getElem, Fin.val_cast,
        List.getElem_set_self, List.set_set]
  | map entries =>
    rcases hg : Entries.get? entries index with _ | item
    · simp [hg] at h
    · simp only [hg] at h
      cases h
      simp only [Entries.get?_insert_self, Entries.insert_insert]
  | _ => cases h

theorem slotIn_bind (r : Reference) (bindings : Bindings) (value : Value) :
    r.slotIn (bindings.bind r.name value) = r.slot value := by
  simp only [slotIn, Bindings.bind, Entries.get?_insert_self]

theorem assign_of_slotIn (h : r.slotIn bindings = .ok slot) (value : Value) :
    r.assign value bindings = (.ok (), bindings.bind r.name (slot.put value)) := by
  unfold assign
  rcases hi : r.index with _ | index
  · -- without an index the slot is the whole variable
    obtain ⟨base, -, hs⟩ := slotIn_eq_ok h
    simp only [Reference.slot, hi] at hs
    cases hs
    rfl
  · simp only [place_eq_slotIn, h, Except.map]

theorem assign_of_unindexed (hi : r.index = none) (value : Value) (bindings : Bindings) :
    r.assign value bindings = (.ok (), bindings.bind r.name value) := by
  simp only [assign, hi]

theorem assign_eq_ok_iff {value : Value} :
    (r.assign value bindings).1 = .ok () ↔ r.Assignable bindings := by
  unfold assign Assignable
  rcases hi : r.index with _ | index
  · simp
  · simp only [place_eq_slotIn, resolve_eq_ok_iff]
    rcases r.slotIn bindings with e | slot <;> simp [Except.map]

theorem slotIn_assign (value : Value) (h : r.Assignable bindings) :
    ∃ put, r.slotIn (r.assign value bindings).2 = .ok ⟨value, put⟩ ∧
      ∀ next, r.assign next bindings = (.ok (), bindings.bind r.name (put next)) := by
  rcases hi : r.index with _ | index
  · refine ⟨id, ?_, fun next => assign_of_unindexed hi next bindings⟩
    rw [assign_of_unindexed hi, slotIn_bind]
    simp only [Reference.slot, hi]
  · obtain ⟨found, hr⟩ := h.resolve_left (by simp [hi])
    obtain ⟨slot, hs, -⟩ := resolve_eq_ok_iff.1 hr
    obtain ⟨base, -, hb⟩ := slotIn_eq_ok hs
    refine ⟨slot.put, ?_, assign_of_slotIn hs⟩
    rw [assign_of_slotIn hs, slotIn_bind, slot_put hb]

theorem resolve_assign {value : Value} (h : r.Assignable bindings) :
    r.resolve (r.assign value bindings).2 = .ok value := by
  obtain ⟨put, hs, -⟩ := slotIn_assign value h
  exact resolve_eq_ok_iff.2 ⟨_, hs, rfl⟩

theorem assign_resolve {value : Value} (h : r.resolve bindings = .ok value) :
    r.assign value bindings = (.ok (), bindings) := by
  obtain ⟨slot, hs, rfl⟩ := resolve_eq_ok_iff.1 h
  obtain ⟨base, hg, hb⟩ := slotIn_eq_ok hs
  rw [assign_of_slotIn hs, put_value_of_slot hb]
  exact congrArg _ (Entries.insert_of_get? hg)

theorem assign_assign (r : Reference) (first second : Value) (bindings : Bindings) :
    r.assign second (r.assign first bindings).2 = r.assign second bindings := by
  by_cases h : r.Assignable bindings
  · obtain ⟨put, hs, hassign⟩ := slotIn_assign first h
    rw [assign_of_slotIn hs, hassign, hassign]
    exact congrArg _ (Entries.insert_insert ..)
  · -- the first write fails, and leaves the bindings to the second one
    rcases ha : (r.assign first bindings).1 with e | _
    · rw [assign_error ha]
    · exact absurd (assign_eq_ok_iff.1 ha) h

theorem execute_of_store {s : Statement} {ctx : Context} {value : Value}
    (he : s.effect ctx = .ok (.store r value)) (hr : r.Assignable ctx.bindings) :
    s.execute ctx = (.ok .statementContinue, ⟨(r.assign value ctx.bindings).2, true⟩) := by
  have ha : r.assign value ctx.bindings = (.ok (), (r.assign value ctx.bindings).2) :=
    Prod.ext (assign_eq_ok_iff.2 hr) rfl
  simp only [Statement.execute, he, Effect.apply]
  rw [ha]

theorem stores_of_effect {s : Statement} {ctx : Context} {value : Value}
    (he : s.effect ctx = .ok (.store r value)) (hr : r.Assignable ctx.bindings) :
    s.Stores ctx r value :=
  ⟨execute_of_store he hr, assign_eq_ok_iff.2 hr, resolve_assign hr⟩

/-- Reading a reference and taking its place agree, on the value as well as on the error. A value can be
assigned to a plain variable and to whatever can be read; it is read back, nothing changes if it was
there already, only the last of two assignments counts, and one that fails changes nothing. -/
theorem addressing_laws (r : Reference) (bindings : Bindings) (v w : Value) :
    (r.place bindings).map Place.value = r.resolve bindings ∧
      ((r.assign v bindings).1 = .ok () ↔
        r.index = none ∨ ∃ found, r.resolve bindings = .ok found) ∧
      (∀ e, (r.assign v bindings).1 = .error e → (r.assign v bindings).2 = bindings) ∧
      ((r.assign v bindings).1 = .ok () → r.resolve (r.assign v bindings).2 = .ok v) ∧
      (r.resolve bindings = .ok v → r.assign v bindings = (.ok (), bindings)) ∧
      r.assign w (r.assign v bindings).2 = r.assign w bindings :=
  ⟨r.map_value_place bindings, assign_eq_ok_iff, fun _ => assign_error,
    fun h => resolve_assign (assign_eq_ok_iff.1 h), assign_resolve, r.assign_assign v w bindings⟩

theorem addressing_laws_array :
    let r : Reference := ⟨"xs", some "+1"⟩
    let past : Reference := ⟨"xs", some "2"⟩
    let bindings : Bindings := [("y", .null), ("xs", .array [.null, .integer 1])]
    let v : Value := .map [("k", .null)]
    (r.place bindings).map Place.value = .ok (.integer 1) ∧
      r.resolve (r.assign v bindings).2 = .ok v ∧
      r.assign (.integer 1) bindings = (.ok (), bindings) ∧
      (past.assign v bindings).1 = .error (.lookup (.outOfBounds "xs" 2 2)) ∧
      (past.assign v bindings).2 = bindings := by
  intro r past bindings v
  obtain ⟨hplace, hok, -, hread, -, -⟩ := addressing_laws r bindings v .null
  obtain ⟨-, -, -, -, hback, -⟩ := addressing_laws r bindings (.integer 1) .null
  obtain ⟨-, -, hfail, -, -, -⟩ := addressing_laws past bindings v .null
  have hr : r.resolve bindings = .ok (.integer 1) := rfl
  have hp : (past.assign v bindings).1 = .error (.lookup (.outOfBounds "xs" 2 2)) := rfl
  exact ⟨hplace.trans hr, hread (hok.2 (.inr ⟨_, hr⟩)), hback hr, hp, hfail _ hp⟩

end Reference
end ClaimRules
