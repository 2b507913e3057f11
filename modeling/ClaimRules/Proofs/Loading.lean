import ClaimRules.Rule
import ClaimRules.Proofs.Spelling
import Mathlib.Data.List.Forall2

/-! Loading of mappings from text. The keys of a mapping stand in the order in which the text writes them
first, each with the operand that is written last. -/

namespace ClaimRules

section Items

variable {α β ε : Type} {f : α → Except ε β} {items : List α}

theorem mapItems_eq_ok_iff {out : List β} :
    mapItems f items = .ok out ↔ List.Forall₂ (fun item a => f item = .ok a) items out := by
  induction items generalizing out with
  | nil => simp [mapItems, eq_comm]
  | cons item rest ih =>
    unfold mapItems
    rcases hf : f item with e | a
    · simp [List.forall₂_cons_left_iff, hf]
    rcases hr : mapItems f rest with e | as
    · simp [List.forall₂_cons_left_iff, hf, ← ih, hr]
    · simp [List.forall₂_cons_left_iff, hf, ← ih, hr, eq_comm]

theorem mapItems_of_error {before after : List α} {item : α} {e : ε}
    (hb : ∀ item ∈ before, ∃ a, f item = .ok a) (he : f item = .error e) :
    mapItems f (before ++ item :: after) = .error e := by
  induction before with
  | nil => simp only [List.nil_append, mapItems, he]
  | cons first rest ih =>
    obtain ⟨a, ha⟩ := hb first List.mem_cons_self
    have hrest := ih fun item hi => hb item (List.mem_cons_of_mem _ hi)
    simp only [List.cons_append, mapItems, ha, hrest]

end Items

namespace Json.Spelling

def last? (members : List (String × Spelling)) (key : String) : Option Spelling :=
  Entries.get? members.reverse key

def part? (members : List (String × Spelling)) (key : String) : Option Spelling :=
  match last? members key with
  | some (.scalar .null _) => none
  | found => found

end Json.Spelling

namespace Entries

open Json (Spelling)

variable {α β : Type}

theorem get?_map (f : α → β) (entries : Entries α) (key : String) :
    get? (entries.map fun entry => (entry.1, f entry.2)) key = (get? entries key).map f := by
  induction entries with
  | nil => rfl
  | cons entry rest ih =>
    simp only [List.map_cons, get?, ih]
    split <;> rfl

section Alongside

variable {P : α → β → Prop} {entries : Entries α} {others : Entries β}

theorem keys_of_forall₂
    (h : List.Forall₂ (fun entry other => other.1 = entry.1 ∧ P entry.2 other.2) entries others) :
    keys others = keys entries := by
  induction h with
  | nil => rfl
  | cons hentry _ ih => exact congrArg₂ List.cons hentry.1 ih

theorem get?_of_forall₂
    (h : List.Forall₂ (fun entry other => other.1 = entry.1 ∧ P entry.2 other.2) entries others)
    {key : String} {b : β} (hb : get? others key = some b) :
    ∃ a, get? entries key = some a ∧ P a b := by
  induction h with
  | nil => cases hb
  | @cons entry other entries others hentry _ ih =>
    obtain ⟨hkey, hp⟩ := hentry
    by_cases hk : entry.1 = key
    · have hb' : other.2 = b := by simpa [get?, hkey, hk] using hb
      exact ⟨entry.2, by simp [get?, hk], hb' ▸ hp⟩
    · have hb' : get? others key = some b := by simpa [get?, hkey, hk] using hb
      obtain ⟨a, ha, hpa⟩ := ih hb'
      exact ⟨a, by simp [get?, hk, ha], hpa⟩

end Alongside

/-- Entries as they are loaded from the members of an object. -/
structure LoadedFrom (Loads : Spelling → α → Prop) (members : List (String × Spelling))
    (entries : Entries α) : Prop where
  keys : entries.keys = (members.map Prod.fst).eraseDups
  value : ∀ key a, get? entries key = some a →
    ∃ spelling, Spelling.last? members key = some spelling ∧ Loads spelling a

theorem loadedFrom_of_mapItems {Loads : Spelling → α → Prop} (P : Json → α → Prop)
    {f : String × Json → Except Error (String × α)}
    (hf : ∀ {entry loaded}, f entry = .ok loaded → loaded.1 = entry.1 ∧ P entry.2 loaded.2)
    (hp : ∀ {spelling : Spelling} {a}, P spelling.doc a → Loads spelling a)
    {members : List (String × Spelling)} {entries : Entries α}
    (h : mapItems f (ofPairs (members.map fun member => (member.1, member.2.doc))) = .ok entries) :
    entries.LoadedFrom Loads members := by
  have hall : List.Forall₂ (fun entry loaded => loaded.1 = entry.1 ∧ P entry.2 loaded.2)
      (ofPairs (members.map fun member => (member.1, member.2.doc))) entries :=
    (mapItems_eq_ok_iff.1 h).imp fun _ _ => hf
  constructor
  · rw [keys_of_forall₂ hall, keys_ofPairs, List.map_map]
    rfl
  · intro key a ha
    -- the document holds what was written last, which is what the spelling tells
    obtain ⟨doc, hdoc, hload⟩ := get?_of_forall₂ hall ha
    rw [get?_ofPairs, ← List.map_reverse, get?_map, Option.map_eq_some_iff] at hdoc
    obtain ⟨spelling, hlast, rfl⟩ := hdoc
    exact ⟨spelling, hlast, hp hload⟩

end Entries

open Json (Spelling)

def Operand.LoadedFrom (spelling : Spelling) (operand : Operand) : Prop :=
  ∃ value, Value.load spelling.doc = .ok value ∧ Operand.ofValue value = operand

def Mapping.LoadedFrom (spelling : Spelling) (mapping : Mapping) : Prop :=
  ∃ members, spelling = .object members ∧
    Entries.LoadedFrom Operand.LoadedFrom members mapping

def MappingTable.LoadedFrom (spelling : Spelling) (table : MappingTable) : Prop :=
  ∃ members, spelling = .object members ∧
    Entries.LoadedFrom Mapping.LoadedFrom members table

def Rule.MappingLoadedFrom (spelling : Spelling) (rule : Rule) : Prop :=
  ∃ members, spelling = .object members ∧
    Option.Rel Mapping.LoadedFrom (Spelling.part? members "mapping") rule.mapping ∧
    Option.Rel (fun spelling name => spelling.doc = .string name)
      (Spelling.part? members "mapping_name") rule.mappingName

theorem Mapping.loadEntry_eq_ok {entry : String × Json} {loaded : String × Operand}
    (h : loadEntry entry = .ok loaded) :
    loaded.1 = entry.1 ∧
      ∃ value, Value.load entry.2 = .ok value ∧ Operand.ofValue value = loaded.2 := by
  unfold loadEntry at h
  split at h
  · next value hvalue =>
    cases h
    exact ⟨rfl, value, hvalue, rfl⟩
  · cases h

theorem Mapping.loadedFrom_of_load {spelling : Spelling} {mapping : Mapping}
    (h : load spelling.doc = .ok mapping) : LoadedFrom spelling mapping := by
  unfold load at h
  split at h
  · next entries he =>
    obtain ⟨members, rfl, rfl⟩ := Spelling.doc_eq_object_iff.1 he
    exact ⟨members, rfl, Entries.loadedFrom_of_mapItems
      (fun doc operand => ∃ value, Value.load doc = .ok value ∧ Operand.ofValue value = operand)
      loadEntry_eq_ok id h⟩
  · cases h

theorem MappingTable.loadEntry_eq_ok {entry : String × Json} {loaded : String × Mapping}
    (h : loadEntry entry = .ok loaded) :
    loaded.1 = entry.1 ∧ Mapping.load entry.2 = .ok loaded.2 := by
  unfold loadEntry at h
  split at h
  · next hmapping =>
    cases h
    exact ⟨rfl, hmapping⟩
  · cases h

theorem MappingTable.loadedFrom_of_load {spelling : Spelling} {table : MappingTable}
    (h : load spelling.doc = .ok table) : LoadedFrom spelling table := by
  unfold load at h
  split at h
  · next entries he =>
    obtain ⟨members, rfl, rfl⟩ := Spelling.doc_eq_object_iff.1 he
    exact ⟨members, rfl, Entries.loadedFrom_of_mapItems
      (fun doc mapping => Mapping.load doc = .ok mapping) loadEntry_eq_ok
      Mapping.loadedFrom_of_load h⟩
  · cases h

namespace Rule

theorem part?_ofPairs (members : List (String × Spelling)) (key : String) :
    part? (Entries.ofPairs (members.map fun member => (member.1, member.2.doc))) key =
      (Spelling.part? members key).map Spelling.doc := by
  unfold part? Spelling.part? Spelling.last?
  rw [Entries.get?_ofPairs, ← List.map_reverse, Entries.get?_map]
  rcases Entries.get? members.reverse key with _ | ⟨doc, flat⟩ | items | written
  · rfl
  · cases doc <;> rfl
  · rfl
  · rfl

theorem loadString_rel {fault : Json → ShapeFault} {part : Option Spelling}
    {found : Option String} (h : loadString fault (part.map Spelling.doc) = .ok found) :
    Option.Rel (fun spelling name => spelling.doc = .string name) part found := by
  rcases part with _ | spelling
  · cases h
    exact .none
  · simp only [Option.map_some, loadString] at h
    split at h
    · next hn => cases hn
    · next text ht =>
      cases h
      exact .some (Option.some.inj ht)
    · cases h

theorem loadMapping_rel {part : Option Spelling} {found : Option Mapping}
    (h : loadMapping (part.map Spelling.doc) = .ok found) :
    Option.Rel Mapping.LoadedFrom part found := by
  rcases part with _ | spelling
  · cases h
    exact .none
  · simp only [Option.map_some, loadMapping] at h
    split at h
    · next hn => cases hn
    · next entries he =>
      rw [← Option.some.inj he] at h
      rcases hm : Mapping.load spelling.doc with e | mapping
      · rw [hm] at h
        cases h
      · rw [hm] at h
        cases h
        exact .some (Mapping.loadedFrom_of_load hm)
    · cases h

theorem mappingLoadedFrom_of_load {spelling : Spelling} {rule : Rule}
    (h : load spelling.doc = .ok rule) : MappingLoadedFrom spelling rule := by
  unfold load at h
  split at h
  · next entries he =>
    obtain ⟨members, rfl, rfl⟩ := Spelling.doc_eq_object_iff.1 he
    obtain ⟨name, -, h⟩ := bind_eq_ok_iff.1 h
    obtain ⟨blocks, -, h⟩ := bind_eq_ok_iff.1 h
    obtain ⟨mapping, hmapping, h⟩ := bind_eq_ok_iff.1 h
    obtain ⟨mappingName, hname, h⟩ := bind_eq_ok_iff.1 h
    cases h
    rw [part?_ofPairs] at hmapping hname
    exact ⟨members, rfl, loadMapping_rel hmapping, loadString_rel hname⟩
  · cases h

end Rule

theorem Json.exists_spans_of_ofText {text : String} {doc : Json} (h : ofText text = .ok doc) :
    ∃ spelling : Spelling, spelling.Spans text ∧ spelling.doc = doc := by
  unfold ofText at h
  split at h
  · next hp =>
    cases h
    exact exists_spans_of_parse hp
  · cases h

theorem Rule.loadText_spans {text : String} {rules : List Rule} (h : loadText text = .ok rules) :
    ∃ items, (Spelling.array items).Spans text ∧ List.Forall₂ MappingLoadedFrom items rules := by
  obtain ⟨doc, hdoc, h⟩ := bind_eq_ok_iff.1 h
  obtain ⟨spelling, hspans, rfl⟩ := Json.exists_spans_of_ofText hdoc
  unfold loadAll at h
  split at h
  · next docs hd =>
    obtain ⟨items, rfl, rfl⟩ := Spelling.doc_eq_array_iff.1 hd
    have hall := List.forall₂_map_left_iff.1 (mapItems_eq_ok_iff.1 h)
    exact ⟨items, hspans, hall.imp fun _ _ => mappingLoadedFrom_of_load⟩
  · cases h

theorem MappingTable.loadText_spans {text : String} {table : MappingTable}
    (h : loadText text = .ok table) :
    ∃ spelling : Spelling, spelling.Spans text ∧ LoadedFrom spelling table := by
  obtain ⟨doc, hdoc, h⟩ := bind_eq_ok_iff.1 h
  obtain ⟨spelling, hspans, rfl⟩ := Json.exists_spans_of_ofText hdoc
  exact ⟨spelling, hspans, loadedFrom_of_load h⟩

end ClaimRules
