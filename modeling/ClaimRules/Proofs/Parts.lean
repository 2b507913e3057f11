import ClaimRules.Proofs.Loading

/-! What values are made of. A value is regular if no map in it has two entries under one key and if its
reals are of the sort that is asked for; regular values are equal to themselves, and their documents
lose nothing of them. -/

namespace ClaimRules

theorem exists_mem_of_forall₂ {α β : Type} {R : α → β → Prop} {items : List α} {others : List β}
    (h : List.Forall₂ R items others) {b : β} (hb : b ∈ others) : ∃ a ∈ items, R a b := by
  induction h with
  | nil => cases hb
  | cons hfirst _ ih =>
    rcases List.mem_cons.1 hb with rfl | hb
    · exact ⟨_, List.mem_cons_self, hfirst⟩
    · obtain ⟨a, ha, hr⟩ := ih hb
      exact ⟨a, List.mem_cons_of_mem _ ha, hr⟩

theorem exists_mem_of_mapItems {α β ε : Type} {f : α → Except ε β} {items : List α} {out : List β}
    (h : mapItems f items = .ok out) {b : β} (hb : b ∈ out) : ∃ a ∈ items, f a = .ok b :=
  exists_mem_of_forall₂ (mapItems_eq_ok_iff.1 h) hb

namespace Entries

variable {α : Type} {entries : Entries α}

theorem mem_insert {entry : String × α} {key : String} {value : α}
    (h : entry ∈ insert key value entries) : entry = (key, value) ∨ entry ∈ entries := by
  induction entries with
  | nil => exact .inl (List.mem_singleton.1 h)
  | cons first rest ih =>
    obtain ⟨k, v⟩ := first
    unfold insert at h
    split at h
    · next hk =>
      rw [hk] at h
      rcases List.mem_cons.1 h with h | h
      · exact .inl h
      · exact .inr (List.mem_cons_of_mem _ h)
    · rcases List.mem_cons.1 h with h | h
      · exact .inr (h ▸ List.mem_cons_self)
      · exact (ih h).imp_right (List.mem_cons_of_mem _)

theorem get?_of_mem (hd : Distinct entries) {key : String} {value : α}
    (h : (key, value) ∈ entries) : get? entries key = some value := by
  induction entries with
  | nil => cases h
  | cons first rest ih =>
    obtain ⟨k, v⟩ := first
    obtain ⟨hk, hd⟩ := List.nodup_cons.1 hd
    rcases List.mem_cons.1 h with h | h
    · cases h
      rw [get?, if_pos rfl]
    · have hkey : key ∈ keys rest := List.mem_map.2 ⟨(key, value), h, rfl⟩
      have hne : k ≠ key := fun e => hk (e ▸ hkey)
      rw [get?, if_neg hne]
      exact ih hd h

theorem distinct_ofPairs (pairs : List (String × α)) : Distinct (ofPairs pairs) := by
  induction pairs using List.reverseRecOn with
  | nil => exact List.nodup_nil
  | append_singleton pairs pair ih =>
    rw [ofPairs_append_singleton]
    exact distinct_insert ih ..

theorem mem_ofPairs {entry : String × α} {pairs : List (String × α)}
    (h : entry ∈ ofPairs pairs) : entry ∈ pairs := by
  induction pairs using List.reverseRecOn with
  | nil => exact h
  | append_singleton pairs pair ih =>
    rw [ofPairs_append_singleton] at h
    rcases mem_insert h with h | h
    · exact List.mem_append_right _ (List.mem_singleton.2 h)
    · exact List.mem_append_left _ (ih h)

theorem distinct_of_forall₂ {β : Type} (P : α → β → Prop) {others : Entries β}
    (h : List.Forall₂ (fun entry other => other.1 = entry.1 ∧ P entry.2 other.2) entries others)
    (hd : Distinct entries) : Distinct others := by
  unfold Distinct at hd ⊢
  rwa [keys_of_forall₂ h]

end Entries

namespace Value

@[elab_as_elim]
theorem induction {motive : Value → Prop} (string : ∀ text, motive (.string text))
    (array : ∀ items, (∀ item ∈ items, motive item) → motive (.array items))
    (map : ∀ entries : Entries Value, (∀ entry ∈ entries, motive entry.2) → motive (.map entries))
    (integer : ∀ n, motive (.integer n)) (real : ∀ x, motive (.real x))
    (boolean : ∀ b, motive (.boolean b)) (null : motive .null) (value : Value) : motive value :=
  match value with
  | .string text => string text
  | .array items =>
    array items fun item _ => induction string array map integer real boolean null item
  | .map entries =>
    map entries fun entry _ => induction string array map integer real boolean null entry.2
  | .integer n => integer n
  | .real x => real x
  | .boolean b => boolean b
  | .null => null
termination_by value
decreasing_by
  · decreasing_tactic
  · next hmem =>
    have hlt := List.sizeOf_lt_of_mem hmem
    rcases entry with ⟨key, value⟩
    simp only [Prod.mk.sizeOf_spec, Value.map.sizeOf_spec] at hlt ⊢
    omega

inductive Part : Value → Value → Prop where
  | self (value : Value) : Part value value
  | item {part item : Value} {items : List Value} (hi : item ∈ items) (h : Part part item) :
      Part part (.array items)
  | entry {part : Value} {entry : String × Value} {entries : Entries Value}
      (he : entry ∈ entries) (h : Part part entry.2) : Part part (.map entries)

/-- At no depth does a map have two entries under one key, and all reals are admitted. -/
structure Regular (admitted : Binary64 → Prop) (value : Value) : Prop where
  keys : ∀ entries : Entries Value, Part (.map entries) value → entries.Distinct
  reals : ∀ x, Part (.real x) value → admitted x

abbrev WellFormed (value : Value) : Prop := value.Regular fun x => x.isFinite = true

abbrev RealFree (value : Value) : Prop := value.Regular fun _ => False

section Regular

variable {admitted : Binary64 → Prop} {value : Value} {items : List Value} {entries : Entries Value}

@[simp] theorem regular_string (text : String) : (string text).Regular admitted :=
  ⟨fun _ h => (nomatch h), fun _ h => (nomatch h)⟩

@[simp] theorem regular_integer (n : Int64) : (integer n).Regular admitted :=
  ⟨fun _ h => (nomatch h), fun _ h => (nomatch h)⟩

@[simp] theorem regular_boolean (b : Bool) : (boolean b).Regular admitted :=
  ⟨fun _ h => (nomatch h), fun _ h => (nomatch h)⟩

@[simp] theorem regular_null : null.Regular admitted :=
  ⟨fun _ h => (nomatch h), fun _ h => (nomatch h)⟩

@[simp] theorem regular_real {x : Binary64} : (real x).Regular admitted ↔ admitted x := by
  refine ⟨fun h => h.reals x (.self _), fun h => ⟨fun _ h => (nomatch h), fun y hy => ?_⟩⟩
  cases hy with
  | self => exact h

@[simp] theorem regular_array :
    (array items).Regular admitted ↔ ∀ item ∈ items, item.Regular admitted := by
  refine ⟨fun h item hi => ⟨fun _ hp => h.keys _ (.item hi hp), fun _ hp => h.reals _ (.item hi hp)⟩,
    fun h => ⟨fun _ hp => ?_, fun _ hp => ?_⟩⟩
  · cases hp with
    | item hi hp => exact (h _ hi).keys _ hp
  · cases hp with
    | item hi hp => exact (h _ hi).reals _ hp

theorem regular_map :
    (map entries).Regular admitted ↔
      entries.Distinct ∧ ∀ entry ∈ entries, entry.2.Regular admitted := by
  refine ⟨fun h => ⟨h.keys _ (.self _), fun entry he =>
    ⟨fun _ hp => h.keys _ (.entry he hp), fun _ hp => h.reals _ (.entry he hp)⟩⟩, fun h => ?_⟩
  obtain ⟨hd, hall⟩ := h
  refine ⟨fun _ hp => ?_, fun _ hp => ?_⟩
  · cases hp with
    | self => exact hd
    | entry he hp => exact (hall _ he).keys _ hp
  · cases hp with
    | entry he hp => exact (hall _ he).reals _ hp

theorem Regular.mono {other : Binary64 → Prop} (h : value.Regular admitted)
    (hmono : ∀ x, admitted x → other x) : value.Regular other :=
  ⟨h.keys, fun x hp => hmono x (h.reals x hp)⟩

theorem Regular.of_get? (h : (map entries).Regular admitted) {key : String}
    (hg : Entries.get? entries key = some value) : value.Regular admitted :=
  (regular_map.1 h).2 _ (Entries.mem_of_get? hg)

theorem Regular.insert (h : (map entries).Regular admitted) (key : String)
    (hv : value.Regular admitted) : (map (Entries.insert key value entries)).Regular admitted := by
  obtain ⟨hd, hall⟩ := regular_map.1 h
  refine regular_map.2 ⟨Entries.distinct_insert hd key value, fun entry he => ?_⟩
  rcases Entries.mem_insert he with rfl | he
  · exact hv
  · exact hall entry he

theorem regular_ofPairs {pairs : List (String × Value)}
    (h : ∀ pair ∈ pairs, pair.2.Regular admitted) :
    (map (Entries.ofPairs pairs)).Regular admitted :=
  regular_map.2 ⟨Entries.distinct_ofPairs pairs, fun entry he => h entry (Entries.mem_ofPairs he)⟩

end Regular

theorem sameItems_self {items : List Value} (h : ∀ item ∈ items, item.same item = true) :
    sameItems items items = true := by
  induction items with
  | nil => rfl
  | cons item rest ih =>
    rw [sameItems, h item List.mem_cons_self, ih fun item hi => h item (List.mem_cons_of_mem _ hi)]
    rfl

theorem sameEntries_of_get? {part entries : Entries Value}
    (h : ∀ entry ∈ part, Entries.get? entries entry.1 = some entry.2 ∧
      entry.2.same entry.2 = true) : sameEntries part entries = true := by
  induction part with
  | nil => rfl
  | cons entry rest ih =>
    obtain ⟨hg, hs⟩ := h entry List.mem_cons_self
    rw [sameEntries, ih fun entry he => h entry (List.mem_cons_of_mem _ he)]
    simp only [hg, hs, Bool.and_self]

theorem same_self {value : Value} (h : value.Regular fun x => x.isNaN = false) :
    value.same value = true := by
  induction value using Value.induction with
  | string text => simp [same]
  | array items ih =>
    rw [same]
    exact sameItems_self fun item hi => ih item hi (regular_array.1 h item hi)
  | map entries ih =>
    obtain ⟨hd, hall⟩ := regular_map.1 h
    have hentries : sameEntries entries entries = true := sameEntries_of_get? fun entry he =>
      ⟨Entries.get?_of_mem hd he, ih entry he (hall entry he)⟩
    simp [same, hentries]
  | integer n => simp [same]
  | real x =>
    have hx : x.isNaN = false := regular_real.1 h
    simp [same, Binary64.same, hx]
  | boolean b => simp [same]
  | null => rfl

theorem toJsonItems_eq_map (items : List Value) : toJsonItems items = items.map toJson := by
  induction items with
  | nil => rfl
  | cons item rest ih => rw [toJsonItems, ih, List.map_cons]

theorem toJsonEntries_eq_map (entries : Entries Value) :
    toJsonEntries entries = entries.map (fun entry => (entry.1, entry.2.toJson)) := by
  induction entries with
  | nil => rfl
  | cons entry rest ih => rw [toJsonEntries, ih, List.map_cons]

theorem ofJsonItems_eq_mapItems (docs : List Json) : ofJsonItems docs = mapItems ofJson docs := by
  induction docs with
  | nil => rfl
  | cons doc rest ih =>
    rw [ofJsonItems, mapItems, ih]
    rcases ofJson doc with n | item
    · rfl
    · rcases mapItems ofJson rest with n | items <;> rfl

theorem ofJsonEntries_eq_mapItems (members : Entries Json) :
    ofJsonEntries members =
      mapItems (fun member => (ofJson member.2).map fun value => (member.1, value)) members := by
  induction members with
  | nil => rfl
  | cons member rest ih =>
    rw [ofJsonEntries, mapItems, ih]
    rcases ofJson member.2 with n | value
    · rfl
    · simp only [Except.map]
      rcases mapItems _ rest with n | entries <;> rfl

theorem ofJson_array_eq_ok_iff {docs : List Json} {value : Value} :
    ofJson (.array docs) = .ok value ↔ ∃ items, value = .array items ∧
      List.Forall₂ (fun doc item => ofJson doc = .ok item) docs items := by
  simp only [← mapItems_eq_ok_iff, ← ofJsonItems_eq_mapItems, ofJson]
  rcases ofJsonItems docs with n | items <;> simp [eq_comm]

theorem ofJson_object_eq_ok_iff {members : Entries Json} {value : Value} :
    ofJson (.object members) = .ok value ↔ ∃ entries, value = .map entries ∧
      List.Forall₂ (fun member entry => entry.1 = member.1 ∧ ofJson member.2 = .ok entry.2) members
        entries := by
  have hmember (member : String × Json) (entry : String × Value) :
      (ofJson member.2).map (fun value => (member.1, value)) = .ok entry ↔
        entry.1 = member.1 ∧ ofJson member.2 = .ok entry.2 := by
    rcases ofJson member.2 with n | value <;> simp [Except.map, Prod.ext_iff, eq_comm]
  simp only [← hmember, ← mapItems_eq_ok_iff, ← ofJsonEntries_eq_mapItems, ofJson]
  rcases ofJsonEntries members with n | entries <;> simp [eq_comm]

theorem ofJson_toJson {value : Value} (h : ∀ x, Part (.real x) value → x.isFinite = true) :
    ofJson value.toJson = .ok value := by
  induction value using Value.induction with
  | array items ih =>
    rw [toJson, toJsonItems_eq_map, ofJson_array_eq_ok_iff]
    refine ⟨items, rfl, List.forall₂_map_left_iff.2 (List.forall₂_same.2 fun item hi => ?_)⟩
    exact ih item hi fun x hx => h x (.item hi hx)
  | map entries ih =>
    rw [toJson, toJsonEntries_eq_map, ofJson_object_eq_ok_iff]
    refine ⟨entries, rfl, List.forall₂_map_left_iff.2 (List.forall₂_same.2 fun entry he => ?_)⟩
    exact ⟨rfl, ih entry he fun x hx => h x (.entry he hx)⟩
  | real x =>
    have hx : x.isFinite = true := h x (.self _)
    simp only [toJson, hx, dite_true, ofJson]
  | _ => rfl

end Value
end ClaimRules
