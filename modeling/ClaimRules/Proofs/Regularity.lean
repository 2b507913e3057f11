import ClaimRules.Proofs.Parts
import ClaimRules.Proofs.WriteFrame
import ClaimRules.Proofs.Operands

/-! Statements keep values regular. No verb makes a real of its own, and each one that makes a map
writes its entries one after the other. -/

namespace ClaimRules

section Regularity

variable {admitted : Binary64 → Prop} {bindings : Bindings} {value : Value}

namespace Reference

variable {r : Reference} {slot : Slot} {base : Value}

theorem regular_slot (hb : base.Regular admitted) (h : r.slot base = .ok slot) :
    slot.value.Regular admitted ∧
      ∀ new : Value, new.Regular admitted → (slot.put new).Regular admitted := by
  unfold Reference.slot at h
  rcases hi : r.index with _ | index
  · simp only [hi] at h
    cases h
    exact ⟨hb, fun new hn => hn⟩
  simp only [hi] at h
  cases base with
  | array items =>
    have hitems := Value.regular_array.1 hb
    rcases hp : position r.name index items.length with e | i
    · simp [hp] at h
    simp only [hp] at h
    cases h
    refine ⟨hitems _ (List.get_mem items i), fun new hn => Value.regular_array.2 fun item hm => ?_⟩
    rcases List.mem_or_eq_of_mem_set hm with hm | rfl
    · exact hitems item hm
    · exact hn
  | map entries =>
    rcases hg : Entries.get? entries index with _ | item
    · simp [hg] at h
    simp only [hg] at h
    cases h
    exact ⟨hb.of_get? hg, fun new hn => hb.insert index hn⟩
  | _ => cases h

theorem regular_slotIn (hb : (Value.map bindings).Regular admitted)
    (h : r.slotIn bindings = .ok slot) :
    slot.value.Regular admitted ∧
      ∀ new : Value, new.Regular admitted → (slot.put new).Regular admitted := by
  obtain ⟨base, hg, hs⟩ := slotIn_eq_ok h
  exact regular_slot (hb.of_get? hg) hs

theorem regular_resolve (hb : (Value.map bindings).Regular admitted)
    (h : r.resolve bindings = .ok value) : value.Regular admitted := by
  obtain ⟨slot, hs, rfl⟩ := resolve_eq_ok_iff.1 h
  exact (regular_slotIn hb hs).1

end Reference

namespace Operand

theorem eq_of_ofValue_constant {item : Value} (h : ofValue item = .constant value) :
    item = value := by
  cases item with
  | string text =>
    unfold ofValue at h
    rcases hr : reference? text with _ | r
    · simpa [hr] using h
    · simp [hr] at h
  | _ =>
    cases h
    rfl

def Regular (admitted : Binary64 → Prop) (operand : Operand) : Prop :=
  ∀ value, operand = .constant value → value.Regular admitted

theorem regular_ofValue {item : Value} (h : item.Regular admitted) :
    (ofValue item).Regular admitted :=
  fun _ hv => eq_of_ofValue_constant hv ▸ h

theorem Regular.resolve {operand : Operand} (ho : operand.Regular admitted)
    (hb : (Value.map bindings).Regular admitted) (h : operand.resolve bindings = .ok value) :
    value.Regular admitted := by
  cases operand with
  | constant found =>
    cases h
    exact ho _ rfl
  | reference r => exact Reference.regular_resolve hb h

end Operand

namespace Statement

variable {s : Statement} {verb : Verb} {index : Nat} {ctx : Context} {effect : Effect}

def Regular (admitted : Binary64 → Prop) (s : Statement) : Prop :=
  ∀ item ∈ s.items, item.Regular admitted

theorem regular_value (hs : s.Regular admitted) (hb : (Value.map bindings).Regular admitted)
    (h : s.value verb index bindings = .ok value) : value.Regular admitted := by
  obtain ⟨operand, ho, hv⟩ := value_eq_ok_iff.1 h
  obtain ⟨item, hi, rfl⟩ := Option.map_eq_some_iff.1 ho
  exact (Operand.regular_ofValue (hs item (List.mem_of_getElem? hi))).resolve hb hv

theorem regular_array (hs : s.Regular admitted) (hb : (Value.map bindings).Regular admitted)
    {items : List Value} (h : s.array verb index bindings = .ok items) :
    (Value.array items).Regular admitted := by
  have hv : s.value verb index bindings = .ok (.array items) :=
    value_eq_ok_iff.2 (array_eq_ok_iff.1 h)
  exact regular_value hs hb hv

theorem mem_of_mem_distinct {items : List Value} {item : Value} (h : item ∈ distinct items) :
    item ∈ items := by
  have hfold (rest kept : List Value)
      (hm : item ∈ rest.foldl (fun kept item => if item.isAmong kept then kept else kept ++ [item])
        kept) : item ∈ kept ∨ item ∈ rest := by
    induction rest generalizing kept with
    | nil => exact .inl hm
    | cons first rest ih =>
      rcases ih _ hm with hk | hr
      · dsimp only at hk
        split at hk
        · exact .inl hk
        · rcases List.mem_append.1 hk with hk | hk
          · exact .inl hk
          · exact .inr (List.mem_singleton.1 hk ▸ List.mem_cons_self)
      · exact .inr (List.mem_cons_of_mem _ hr)
  exact (hfold items [] h).resolve_left List.not_mem_nil

theorem exists_string_of_foldItems {fold : String → String} {items folded : List Value}
    (h : foldItems fold items = .ok folded) {item : Value} (hi : item ∈ folded) :
    ∃ text, item = .string text := by
  induction items generalizing folded with
  | nil =>
    cases h
    cases hi
  | cons first rest ih =>
    cases first with
    | string text =>
      unfold foldItems at h
      rcases hr : foldItems fold rest with found | others
      · simp [hr] at h
      rw [hr] at h
      cases h
      rcases List.mem_cons.1 hi with rfl | hi
      · exact ⟨fold text, rfl⟩
      · exact ih hr hi
    | _ => cases h

theorem regular_of_foldValue? {fold : String → String} {folded : Value}
    (hv : value.Regular admitted) (h : foldValue? fold value = some folded) :
    folded.Regular admitted := by
  cases value with
  | string text =>
    cases h
    exact Value.regular_string _
  | array items =>
    obtain ⟨others, ho, rfl⟩ := Option.map_eq_some_iff.1 h
    have hfold : foldItems fold items = .ok others := by
      rcases hf : foldItems fold items with found | kept
      · rw [hf] at ho
        cases ho
      · rw [hf] at ho
        cases ho
        rfl
    refine Value.regular_array.2 fun item hi => ?_
    obtain ⟨text, rfl⟩ := exists_string_of_foldItems hfold hi
    exact Value.regular_string text
  | map entries =>
    cases h
    refine Value.regular_ofPairs (List.forall_mem_map.2 fun entry he => ?_)
    exact (Value.regular_map.1 hv).2 entry he
  | _ => cases h

end Statement

def Effect.values : Effect → List Value
  | .store _ value => [value]
  | .push _ item => [item]
  | .search _ groups named => [.array groups, .map named]
  | .test _ => []
  | .flow _ => []

namespace Statement

variable {s : Statement} {verb : Verb} {ctx : Context} {effect : Effect}

theorem regular_groupValue (text : List Char) (span : Option Regex.Span) :
    (groupValue text span).Regular admitted := by
  cases span with
  | none => exact Value.regular_null
  | some span => exact Value.regular_string _

theorem regular_searchEffect (re : Regex) (text : List Char) :
    ∀ value ∈ (searchEffect re text).values, value.Regular admitted := by
  unfold searchEffect
  rcases re.firstMatch? text with _ | m
  · simp [Effect.values, Value.regular_map, Entries.Distinct, Entries.keys]
  · have hgroups : (Value.array (m.groups.map (groupValue text))).Regular admitted :=
      Value.regular_array.2 (List.forall_mem_map.2 fun span _ => regular_groupValue text span)
    have hnamed : (Value.map (Entries.ofPairs ((re.namedGroups m).map fun g =>
        (g.1, groupValue text g.2)))).Regular admitted :=
      Value.regular_ofPairs (List.forall_mem_map.2 fun g _ => regular_groupValue text g.2)
    exact List.forall_mem_cons.2 ⟨hgroups, List.forall_mem_singleton.2 hnamed⟩

theorem regular_verbEffect (hs : s.Regular admitted)
    (hb : (Value.map ctx.bindings).Regular admitted) (h : s.verbEffect verb ctx = .ok effect) :
    ∀ value ∈ effect.values, value.Regular admitted := by
  cases verb with
  | set =>
    obtain ⟨_, _, value, hv, rfl⟩ := set_iff.1 h
    exact List.forall_mem_singleton.2 (regular_value hs hb hv)
  | length =>
    obtain ⟨_, _, _, _, n, _, rfl⟩ := length_iff.1 h
    exact List.forall_mem_singleton.2 (Value.regular_integer _)
  | interpolate =>
    obtain ⟨_, _, _, _, text, _, rfl⟩ := interpolate_iff.1 h
    exact List.forall_mem_singleton.2 (Value.regular_string text)
  | append =>
    obtain ⟨_, _, _, _, item, hv, rfl⟩ := append_iff.1 h
    exact List.forall_mem_singleton.2 (regular_value hs hb hv)
  | unique =>
    obtain ⟨_, _, items, hi, rfl⟩ := unique_iff.1 h
    have hitems := Value.regular_array.1 (regular_array hs hb hi)
    exact List.forall_mem_singleton.2
      (Value.regular_array.2 fun item hm => hitems item (mem_of_mem_distinct hm))
  | split =>
    obtain ⟨_, _, _, _, _, _, _, _, rfl⟩ := split_iff.1 h
    exact List.forall_mem_singleton.2
      (Value.regular_array.2 (List.forall_mem_map.2 fun p _ => Value.regular_string _))
  | join =>
    obtain ⟨_, _, _, _, _, _, rfl⟩ := join_iff.1 h
    exact List.forall_mem_singleton.2 (Value.regular_string _)
  | lower | upper =>
    obtain ⟨_, _, value, hv, folded, hf, rfl⟩ := foldCase_iff.1 h
    exact List.forall_mem_singleton.2 (regular_of_foldValue? (regular_value hs hb hv) hf)
  | regexpReplace =>
    obtain ⟨_, _, _, _, _, _, _, _, _, _, rfl⟩ := regexpReplace_iff.1 h
    exact List.forall_mem_singleton.2 (Value.regular_string _)
  | regexp =>
    obtain ⟨_, _, _, _, re, _, rfl⟩ := regexp_iff.1 h
    exact regular_searchEffect re _
  | member | notMember =>
    obtain ⟨_, _, _, _, _, _, rfl⟩ := membership_iff.1 h
    exact List.forall_mem_nil _
  | compare =>
    obtain ⟨_, _, _, _, _, _, _, _, _, rfl⟩ := compare_iff.1 h
    exact List.forall_mem_nil _
  | exit =>
    obtain ⟨_, _, _, _, _, _, rfl⟩ := exit_iff.1 h
    exact List.forall_mem_nil _
  | skip =>
    obtain ⟨_, _, rfl⟩ := skip_iff.1 h
    exact List.forall_mem_nil _

end Statement

namespace Effect

variable {effect : Effect} {writes : List (String × Value)}

theorem regular_writes (hv : ∀ value ∈ effect.values, value.Regular admitted)
    (hb : (Value.map bindings).Regular admitted) (h : effect.writes bindings = .ok writes) :
    ∀ write ∈ writes, write.2.Regular admitted := by
  cases effect with
  | store target value =>
    have hvalue : value.Regular admitted := hv value List.mem_cons_self
    unfold Effect.writes at h
    rcases hi : target.index with _ | index
    · simp only [hi] at h
      cases h
      exact List.forall_mem_singleton.2 hvalue
    · simp only [hi] at h
      rcases hs : target.slotIn bindings with e | slot
      · simp [hs, Except.map] at h
      · rw [hs] at h
        cases h
        exact List.forall_mem_singleton.2 ((Reference.regular_slotIn hb hs).2 value hvalue)
  | push target item =>
    have hitem : item.Regular admitted := hv item List.mem_cons_self
    unfold Effect.writes at h
    obtain ⟨⟨value, put⟩, hs, h⟩ := bind_eq_ok_iff.1 h
    obtain ⟨hvalue, hput⟩ := Reference.regular_slotIn hb hs
    cases value with
    | array items =>
      cases h
      refine List.forall_mem_singleton.2 (hput _ (Value.regular_array.2 ?_))
      exact List.forall_mem_append.2
        ⟨Value.regular_array.1 hvalue, List.forall_mem_singleton.2 hitem⟩
    | _ => cases h
  | search matched groups named =>
    cases h
    obtain ⟨hgroups, hnamed⟩ := List.forall_mem_cons.1 hv
    exact List.forall_mem_cons.2
      ⟨hgroups, List.forall_mem_singleton.2 (List.forall_mem_singleton.1 hnamed)⟩
  | test result =>
    cases h
    exact List.forall_mem_nil _
  | flow outcome =>
    cases h
    exact List.forall_mem_nil _

end Effect

theorem Bindings.regular_bindAll {writes : List (String × Value)}
    (hw : ∀ write ∈ writes, write.2.Regular admitted)
    (hb : (Value.map bindings).Regular admitted) :
    (Value.map (bindings.bindAll writes)).Regular admitted := by
  induction writes generalizing bindings with
  | nil => exact hb
  | cons write rest ih =>
    exact ih (fun write hm => hw write (List.mem_cons_of_mem _ hm))
      (hb.insert write.1 (hw write List.mem_cons_self))

theorem Statement.regular_execute {s : Statement} {ctx : Context} (hs : s.Regular admitted)
    (hb : (Value.map ctx.bindings).Regular admitted) :
    (Value.map (s.execute ctx).2.bindings).Regular admitted := by
  unfold Statement.execute
  rcases he : s.effect ctx with e | effect
  · exact hb
  simp only [Effect.apply_eq]
  rcases hw : effect.writes ctx.bindings with e | writes
  · exact hb
  obtain ⟨verb, -, he⟩ := effect_eq_ok_iff.1 he
  have hvalues : ∀ value ∈ effect.values, value.Regular admitted := regular_verbEffect hs hb he
  exact Bindings.regular_bindAll (Effect.regular_writes hvalues hb hw) hb

end Regularity
end ClaimRules
