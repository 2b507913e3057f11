import ClaimRules.Proofs.Addressing
import ClaimRules.Proofs.Equality
import ClaimRules.Proofs.Regularity

/-! Arrays without duplicates. Each item is compared with those that are kept and not with all that
came before it, which makes no difference: equality is transitive, so what is equal to an item that
was dropped is equal to the one that was kept for it. -/

namespace ClaimRules

namespace Value

variable {value item : Value} {items others : List Value}

/-- The items that no earlier one is equal to, in their order. -/
def firsts (items : List Value) : List Value :=
  (items.zipIdx.filter fun p => !p.1.isAmong (items.take p.2)).map Prod.fst

abbrev Unequal (items : List Value) : Prop := items.Pairwise fun a b => a.same b = false

theorem isAmong_iff : value.isAmong items = true ↔ ∃ item ∈ items, item.same value = true :=
  List.any_eq_true

theorem isAmong_eq_false_iff :
    value.isAmong items = false ↔ ∀ item ∈ items, item.same value = false := by
  simp only [isAmong, List.any_eq_false, Bool.not_eq_true]

theorem isAmong_append_singleton :
    value.isAmong (items ++ [item]) = (value.isAmong items || item.same value) := by
  simp [isAmong]

theorem isAmong_of_same (h : item.same value = true) (hi : item.isAmong items = true) :
    value.isAmong items = true := by
  obtain ⟨found, hf, hs⟩ := isAmong_iff.1 hi
  exact isAmong_iff.2 ⟨found, hf, same_trans hs h⟩

theorem firsts_append_singleton (items : List Value) (item : Value) :
    firsts (items ++ [item]) =
      if item.isAmong items then firsts items else firsts items ++ [item] := by
  have hbefore : items.zipIdx.filter (fun p => !p.1.isAmong ((items ++ [item]).take p.2)) =
      items.zipIdx.filter fun p => !p.1.isAmong (items.take p.2) := by
    refine List.filter_congr fun p hp => ?_
    have hlt : p.2 < items.length := by simpa using List.snd_lt_of_mem_zipIdx hp
    rw [List.take_append_of_le_length (Nat.le_of_lt hlt)]
  have hlast : (items ++ [item]).take items.length = items := List.take_left
  unfold firsts
  rw [List.zipIdx_append, List.filter_append, hbefore, List.map_append, List.zipIdx_singleton,
    List.filter_singleton, Nat.zero_add, hlast]
  cases item.isAmong items <;> simp

end Value

namespace Statement

open Value

variable {value item : Value} {items : List Value}

theorem distinct_append_singleton (items : List Value) (item : Value) :
    distinct (items ++ [item]) =
      if item.isAmong (distinct items) then distinct items else distinct items ++ [item] := by
  simp only [distinct, List.foldl_append]
  rfl

theorem isAmong_distinct (value : Value) (items : List Value) :
    value.isAmong (distinct items) = value.isAmong items := by
  induction items using List.reverseRecOn generalizing value with
  | nil => rfl
  | append_singleton items item ih =>
    rw [distinct_append_singleton, isAmong_append_singleton]
    split
    · next h =>
      rw [ih value]
      cases hs : item.same value with
      | false => rw [Bool.or_false]
      | true => rw [isAmong_of_same hs (ih item ▸ h), Bool.true_or]
    · rw [isAmong_append_singleton, ih value]

theorem distinct_eq_firsts (items : List Value) : distinct items = firsts items := by
  induction items using List.reverseRecOn with
  | nil => rfl
  | append_singleton items item ih =>
    rw [distinct_append_singleton, firsts_append_singleton, isAmong_distinct, ih]

theorem unequal_distinct (items : List Value) : Unequal (distinct items) := by
  induction items using List.reverseRecOn with
  | nil => exact .nil
  | append_singleton items item ih =>
    rw [distinct_append_singleton]
    split
    · exact ih
    · next h =>
      refine List.pairwise_append.2 ⟨ih, List.pairwise_singleton .., fun kept hk last hl => ?_⟩
      rw [List.mem_singleton.1 hl]
      exact isAmong_eq_false_iff.1 (eq_false_of_ne_true h) kept hk

theorem distinct_of_unequal (h : Unequal items) : distinct items = items := by
  induction items using List.reverseRecOn with
  | nil => rfl
  | append_singleton items item ih =>
    obtain ⟨hitems, -, hitem⟩ := List.pairwise_append.1 h
    have hnew : item.isAmong items = false :=
      isAmong_eq_false_iff.2 fun kept hk => hitem kept hk item List.mem_cons_self
    rw [distinct_append_singleton, ih hitems, hnew]
    rfl

variable {s : Statement} {r : Reference} {ctx : Context}

theorem execute_unique (hv : s.verb = .ok .unique) (hr : s.operand? 1 = some (.reference r))
    (ha : r.Assignable ctx.bindings) (hi : s.Yields ctx.bindings 2 (.array items)) :
    s.execute ctx =
      (.ok .statementContinue, ⟨(r.assign (.array (distinct items)) ctx.bindings).2, true⟩) := by
  have he : s.effect ctx = .ok (.store r (.array (distinct items))) :=
    effect_eq_ok_iff.2 ⟨.unique, hv,
      unique_iff.2 ⟨r, target_eq_ok_iff.2 hr, items, array_eq_ok_iff.2 hi, rfl⟩⟩
  exact Reference.execute_of_store he ha

theorem execute_member (hv : s.verb = .ok .member) (hm : s.Yields ctx.bindings 1 value)
    (hi : s.Yields ctx.bindings 2 (.array items)) :
    s.execute ctx = (.ok .statementContinue, ⟨ctx.bindings, value.isAmong items⟩) := by
  have he : s.effect ctx = .ok (.test (value.isAmong items != false)) :=
    effect_eq_ok_iff.2 ⟨.member, hv, membership_iff.2
      ⟨value, value_eq_ok_iff.2 hm, .array items, value_eq_ok_iff.2 hi, _, rfl, rfl⟩⟩
  simp only [execute, he, Effect.apply, Bool.bne_false]

/-- The array that is stored holds the items that no earlier one is equal to. No two of them are
equal, doing the same again changes nothing, and the same values are found among them as before. -/
theorem unique_stores_firsts (hv : s.verb = .ok .unique)
    (hr : s.operand? 1 = some (.reference r)) (ha : r.Assignable ctx.bindings)
    (hi : s.Yields ctx.bindings 2 (.array items)) (hkeys : (Value.array items).DistinctKeys) :
    let kept := firsts items
    let after : Context := ⟨(r.assign (.array kept) ctx.bindings).2, true⟩
    s.execute ctx = (.ok .statementContinue, after) ∧
      r.resolve after.bindings = .ok (.array kept) ∧
      (kept.Pairwise fun a b => a.same b = false ∧ b.same a = false) ∧
      firsts kept = kept ∧
      (∀ again : Statement, again.verb = .ok .unique → again.operand? 1 = some (.reference r) →
        again.operand? 2 = some (.reference r) →
          again.execute after = (.ok .statementContinue, after)) ∧
      ∀ (t u : Statement) (before later : Context) (member : Value),
        t.verb = .ok .member → u.verb = .ok .member →
          t.Yields before.bindings 1 member → t.Yields before.bindings 2 (.array items) →
          u.Yields later.bindings 1 member → u.Yields later.bindings 2 (.array kept) →
            ∃ found, t.execute before = (.ok .statementContinue, ⟨before.bindings, found⟩) ∧
              u.execute later = (.ok .statementContinue, ⟨later.bindings, found⟩) := by
  intro kept after
  have hkept : distinct items = kept := distinct_eq_firsts items
  have hunequal : Unequal kept := hkept ▸ unequal_distinct items
  have hread : r.resolve after.bindings = .ok (.array kept) := Reference.resolve_assign ha
  have hagain : distinct kept = kept := distinct_of_unequal hunequal
  refine ⟨?_, hread, ?_, ?_, fun again hva hra hia => ?_, fun t u before later member => ?_⟩
  · rw [execute_unique hv hr ha hi, hkept]
  · have hregular (item : Value) (hm : item ∈ kept) : item.DistinctKeys :=
      Value.regular_array.1 hkeys item (mem_of_mem_distinct (hkept.symm ▸ hm))
    refine hunequal.imp_of_mem fun {a b} hma hmb hab => ⟨hab, eq_false_of_ne_true fun hba => ?_⟩
    cases hab.symm.trans (same_symm (hregular b hmb) (hregular a hma) hba)
  · exact (distinct_eq_firsts kept).symm.trans hagain
  · have hyields : again.Yields after.bindings 2 (.array kept) := ⟨_, hia, hread⟩
    rw [execute_unique hva hra (.inr ⟨_, hread⟩) hyields, hagain, Reference.assign_resolve hread]
  · intro hvt hvu hmt hit hmu hiu
    refine ⟨member.isAmong items, execute_member hvt hmt hit, ?_⟩
    rw [execute_member hvu hmu hiu, ← hkept, isAmong_distinct]

theorem unique_stores_firsts_mixed :
    let nan : Value := .real ⟨0x7ff8000000000000⟩
    let one : Value := .real ⟨0x3ff0000000000000⟩
    let entries : Value := .map [("a", .integer 1), ("b", .array [nan, .null])]
    let plain : Value := .map [("a", .integer 1), ("b", .null)]
    let turned : Value := .map [("b", .null), ("a", .integer 1)]
    let items := [.integer 1, one, nan, plain, entries, nan, turned, entries, .integer 1]
    let kept := [.integer 1, one, nan, plain, entries, nan, entries]
    let s : Statement := ⟨[.string "unique", .string "$out", .string "$xs"]⟩
    let ctx : Context := ⟨[("xs", .array items)], false⟩
    s.execute ctx =
        (.ok .statementContinue, ⟨[("xs", .array items), ("out", .array kept)], true⟩) ∧
      (kept.Pairwise fun a b => a.same b = false ∧ b.same a = false) ∧ firsts kept = kept := by
  intro nan one entries plain turned items kept s ctx
  have hi : s.Yields ctx.bindings 2 (.array items) := ⟨.reference ⟨"xs", none⟩, rfl, rfl⟩
  have hkeys : (Value.array items).DistinctKeys := by
    simp [items, nan, one, entries, plain, turned, DistinctKeys, Value.regular_map,
      Entries.Distinct, Entries.keys]
  have hr : s.operand? 1 = some (.reference ⟨"out", none⟩) := rfl
  have ha : (⟨"out", none⟩ : Reference).Assignable ctx.bindings := .inl rfl
  obtain ⟨hexecute, -, hpairwise, hagain, -⟩ := unique_stores_firsts rfl hr ha hi hkeys
  have hkept : firsts items = kept := rfl
  rw [hkept] at hexecute hpairwise hagain
  exact ⟨hexecute, hpairwise, hagain⟩

end Statement
end ClaimRules
