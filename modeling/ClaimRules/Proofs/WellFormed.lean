import ClaimRules.Proofs.Regularity

/-! What is loaded from JSON text is well formed: values, the items of statements and the constants of
mappings. -/

namespace ClaimRules

namespace Json

def Spelled (doc : Json) : Prop := ∃ spelling : Spelling, spelling.doc = doc

theorem spelled_of_ofText {text : String} {doc : Json} (h : ofText text = .ok doc) :
    doc.Spelled := by
  obtain ⟨spelling, -, hdoc⟩ := exists_spans_of_ofText h
  exact ⟨spelling, hdoc⟩

theorem Spelled.items {docs : List Json} (h : (array docs).Spelled) : ∀ doc ∈ docs, doc.Spelled := by
  obtain ⟨spelling, hs⟩ := h
  obtain ⟨items, -, rfl⟩ := Spelling.doc_eq_array_iff.1 hs
  exact List.forall_mem_map.2 fun item _ => ⟨item, rfl⟩

theorem Spelled.members {members : Entries Json} (h : (object members).Spelled) :
    members.Distinct ∧ ∀ member ∈ members, member.2.Spelled := by
  obtain ⟨spelling, hs⟩ := h
  obtain ⟨written, -, rfl⟩ := Spelling.doc_eq_object_iff.1 hs
  refine ⟨Entries.distinct_ofPairs _, fun member hm => ?_⟩
  obtain ⟨part, -, rfl⟩ := List.mem_map.1 (Entries.mem_ofPairs hm)
  exact ⟨part.2, rfl⟩

end Json

namespace Value

open Json (Spelling)

theorem wellFormed_of_spelling (spelling : Spelling) {value : Value}
    (h : ofJson spelling.doc = .ok value) : value.WellFormed := by
  match spelling with
  | .scalar doc flat =>
    rw [Spelling.doc] at h
    cases doc with
    | array docs => cases flat
    | object members => cases flat
    | large n above => cases h
    | real x finite =>
      cases h
      exact regular_real.2 finite
    | _ =>
      cases h
      simp
  | .array items =>
    rw [Spelling.doc, Spelling.docs_eq_map] at h
    obtain ⟨values, rfl, hall⟩ := ofJson_array_eq_ok_iff.1 h
    refine regular_array.2 fun value hv => ?_
    obtain ⟨item, hi, hitem⟩ := exists_mem_of_forall₂ (List.forall₂_map_left_iff.1 hall) hv
    exact wellFormed_of_spelling item hitem
  | .object members =>
    rw [Spelling.doc, Spelling.memberDocs_eq_map] at h
    obtain ⟨entries, rfl, hall⟩ := ofJson_object_eq_ok_iff.1 h
    have hkeys : Entries.Distinct entries := Entries.distinct_of_forall₂
      (fun doc value => ofJson doc = .ok value) hall (Entries.distinct_ofPairs _)
    refine regular_map.2 ⟨hkeys, fun entry he => ?_⟩
    obtain ⟨doc, hdoc, -, hvalue⟩ := exists_mem_of_forall₂ hall he
    obtain ⟨member, hm, rfl⟩ := List.mem_map.1 (Entries.mem_ofPairs hdoc)
    exact wellFormed_of_spelling member.2 hvalue
termination_by spelling
decreasing_by
  · decreasing_tactic
  · have hlt := List.sizeOf_lt_of_mem hm
    rcases member with ⟨key, value⟩
    simp only [Prod.mk.sizeOf_spec, Spelling.object.sizeOf_spec] at hlt ⊢
    omega

theorem wellFormed_of_load {doc : Json} {value : Value} (hd : doc.Spelled)
    (h : load doc = .ok value) : value.WellFormed := by
  obtain ⟨spelling, rfl⟩ := hd
  unfold load at h
  split at h
  · next hvalue =>
    cases h
    exact wellFormed_of_spelling spelling hvalue
  · cases h

example : (Json.parse "[1.5,-1e309]").isOk = false ∧ (Json.parse "[1.5,-1e308]").isOk = true := by
  decide +kernel

end Value

abbrev Statement.WellFormed (s : Statement) : Prop := s.Regular fun x => x.isFinite = true

/-- Keys are distinct and constants are well formed. -/
structure Mapping.WellFormed (mapping : Mapping) : Prop where
  keys : Entries.Distinct mapping
  operands : ∀ entry ∈ mapping, entry.2.Regular fun x => x.isFinite = true

structure Rule.WellFormed (rule : Rule) : Prop where
  statements : ∀ s ∈ rule.statements, s.WellFormed
  mapping : ∀ mapping, rule.mapping = some mapping → Mapping.WellFormed mapping

structure RuleBook.WellFormed (book : RuleBook) : Prop where
  rules : ∀ rule ∈ book.rules, rule.WellFormed
  mappings : ∀ entry ∈ book.mappings, Mapping.WellFormed entry.2

theorem Statement.exists_doc_of_loadItems {docs : List Json} {index : Nat} {items : List Value}
    (h : loadItems index docs = .ok items) {item : Value} (hi : item ∈ items) :
    ∃ doc ∈ docs, Value.load doc = .ok item := by
  induction docs generalizing index items with
  | nil =>
    cases h
    cases hi
  | cons doc rest ih =>
    unfold loadItems at h
    rcases hv : Value.load doc with e | value
    · simp [hv] at h
    rcases hr : loadItems (index + 1) rest with e | others
    · simp [hv, hr] at h
    simp only [hv, hr] at h
    cases h
    rcases List.mem_cons.1 hi with rfl | hi
    · exact ⟨doc, List.mem_cons_self, hv⟩
    · obtain ⟨doc, hd, hload⟩ := ih hr hi
      exact ⟨doc, List.mem_cons_of_mem _ hd, hload⟩

theorem Statement.wellFormed_of_load {doc : Json} {s : Statement} (hd : doc.Spelled)
    (h : load doc = .ok s) : s.WellFormed := by
  cases doc with
  | array docs =>
    unfold load at h
    rcases hl : loadItems 0 docs with e | items
    · simp [hl] at h
    simp only [hl] at h
    cases h
    intro item hi
    obtain ⟨doc, hdoc, hload⟩ := exists_doc_of_loadItems hl hi
    exact Value.wellFormed_of_load (hd.items doc hdoc) hload
  | _ => cases h

theorem Block.wellFormed_of_load {doc : Json} {block : Block} (hd : doc.Spelled)
    (h : load doc = .ok block) : ∀ s ∈ block, s.WellFormed := by
  cases doc with
  | array docs =>
    intro s hs
    obtain ⟨doc, hdoc, hload⟩ := exists_mem_of_mapItems h hs
    exact Statement.wellFormed_of_load (hd.items doc hdoc) hload
  | _ => cases h

theorem Mapping.wellFormed_of_load {doc : Json} {mapping : Mapping} (hd : doc.Spelled)
    (h : load doc = .ok mapping) : WellFormed mapping := by
  cases doc with
  | object members =>
    obtain ⟨hkeys, hmembers⟩ := hd.members
    let Loads (doc : Json) (operand : Operand) : Prop :=
      ∃ value, Value.load doc = .ok value ∧ Operand.ofValue value = operand
    have hall : List.Forall₂ (fun member loaded => loaded.1 = member.1 ∧ Loads member.2 loaded.2)
        members mapping :=
      (mapItems_eq_ok_iff.1 h).imp fun _ _ => loadEntry_eq_ok
    constructor
    · exact Entries.distinct_of_forall₂ Loads hall hkeys
    · intro entry he
      obtain ⟨member, hm, -, value, hload, hvalue⟩ := exists_mem_of_forall₂ hall he
      exact hvalue ▸ Operand.regular_ofValue (Value.wellFormed_of_load (hmembers member hm) hload)
  | _ => cases h

namespace Rule

variable {entries : Entries Json} {rule : Rule} {doc : Json}

theorem spelled_of_part? (h : (Json.object entries).Spelled) {key : String}
    (hp : part? entries key = some doc) : doc.Spelled := by
  unfold part? at hp
  split at hp
  · cases hp
  · exact h.members.2 _ (Entries.mem_of_get? hp)

theorem wellFormed_of_loadBlocks {part : Option Json} (hd : ∀ doc, part = some doc → doc.Spelled)
    {found : Option (List Block)} (h : loadBlocks part = .ok found) :
    ∀ s ∈ (found.getD []).flatten, s.WellFormed := by
  unfold loadBlocks at h
  split at h
  · cases h
    intro s hs
    cases hs
  · next docs =>
    rcases hb : mapItems Block.load docs with e | blocks
    · rw [hb] at h
      cases h
    rw [hb] at h
    cases h
    intro s hs
    obtain ⟨block, hblock, hs⟩ := List.mem_flatten.1 hs
    obtain ⟨doc, hdoc, hload⟩ := exists_mem_of_mapItems hb hblock
    exact Block.wellFormed_of_load ((hd _ rfl).items doc hdoc) hload s hs
  · cases h

theorem wellFormed_of_loadMapping {part : Option Json}
    (hd : ∀ doc, part = some doc → doc.Spelled) {found : Option Mapping}
    (h : loadMapping part = .ok found) :
    ∀ mapping, found = some mapping → Mapping.WellFormed mapping := by
  unfold loadMapping at h
  split at h
  · cases h
    intro mapping hm
    cases hm
  · next members =>
    rcases hl : Mapping.load (.object members) with e | loaded
    · rw [hl] at h
      cases h
    rw [hl] at h
    cases h
    intro mapping hm
    cases hm
    exact Mapping.wellFormed_of_load (hd _ rfl) hl
  · cases h

theorem wellFormed_of_load (hd : doc.Spelled) (h : load doc = .ok rule) : rule.WellFormed := by
  cases doc with
  | object entries =>
    obtain ⟨name, -, h⟩ := bind_eq_ok_iff.1 h
    obtain ⟨blocks, hblocks, h⟩ := bind_eq_ok_iff.1 h
    obtain ⟨mapping, hmapping, h⟩ := bind_eq_ok_iff.1 h
    obtain ⟨mappingName, -, h⟩ := bind_eq_ok_iff.1 h
    cases h
    exact ⟨wellFormed_of_loadBlocks (fun _ => spelled_of_part? hd) hblocks,
      wellFormed_of_loadMapping (fun _ => spelled_of_part? hd) hmapping⟩
  | _ => cases h

theorem wellFormed_of_loadText {text : String} {rules : List Rule}
    (h : loadText text = .ok rules) : ∀ rule ∈ rules, rule.WellFormed := by
  obtain ⟨doc, hdoc, h⟩ := bind_eq_ok_iff.1 h
  have hd : doc.Spelled := Json.spelled_of_ofText hdoc
  cases doc with
  | array docs =>
    intro rule hr
    obtain ⟨doc, hdoc, hload⟩ := exists_mem_of_mapItems h hr
    exact wellFormed_of_load (hd.items doc hdoc) hload
  | _ => cases h

end Rule

theorem MappingTable.wellFormed_of_loadText {text : String} {table : MappingTable}
    (h : loadText text = .ok table) : ∀ entry ∈ table, Mapping.WellFormed entry.2 := by
  obtain ⟨doc, hdoc, h⟩ := bind_eq_ok_iff.1 h
  have hd : doc.Spelled := Json.spelled_of_ofText hdoc
  cases doc with
  | object members =>
    intro entry he
    obtain ⟨member, hm, hload⟩ := exists_mem_of_mapItems h he
    exact Mapping.wellFormed_of_load (hd.members.2 member hm) (loadEntry_eq_ok hload).2
  | _ => cases h

end ClaimRules
