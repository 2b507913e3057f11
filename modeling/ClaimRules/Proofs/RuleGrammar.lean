import ClaimRules.Proofs.DocumentTrees
import ClaimRules.Proofs.KeyOrder
import ClaimRules.Proofs.Readings

/-! The grammar of rules. Loading finds what the readings of rules say; which documents have rules is also
said without these, by the sorts of documents that the parts of a rule may be. -/

namespace ClaimRules

variable {α : Type}

def Value.reading : Reading Json Value where
  Reads doc value := value.toJson = doc ∧ value.nullNonFinite = value
  Refuses doc e := ∃ n, doc.larges.head? = some n ∧ e = .shape (.largeInteger n)

def Statement.reading : Reading Json Statement :=
  ((Value.reading.items .inItem).inForm .array .statement).as .mk

def Block.reading : Reading Json Block :=
  (Statement.reading.items fun _ cause => cause).inForm .array .block

namespace Mapping

def entryReading : Reading (String × Json) (String × Operand) where
  Reads entry loaded :=
    loaded.1 = entry.1 ∧ ∃ value, Value.reading.Reads entry.2 value ∧ Operand.ofValue value = loaded.2
  Refuses entry := Value.reading.Refuses entry.2

def reading : Reading Json Mapping :=
  (entryReading.items fun _ cause => cause).inForm .object .inlineMapping

end Mapping

namespace Rule

def nameReading : Reading (Option Json) (Option String) :=
  (Reading.verbatim.inForm .text .ruleName).optional

def blocksReading : Reading (Option Json) (Option (List Block)) :=
  ((Block.reading.items fun _ cause => cause).inForm .array .blockList).optional

def mappingReading : Reading (Option Json) (Option Mapping) := Mapping.reading.optional

def mappingNameReading : Reading (Option Json) (Option String) :=
  (Reading.verbatim.inForm .text .mappingName).optional

/-- The parts of a rule. The first that is refused tells why: the name comes before the blocks, these come
before the mapping, and the name of a mapping is last. -/
def partsReading : Reading (Entries Json) Rule where
  Reads entries rule :=
    nameReading.Reads (part? entries "name") rule.name ∧
      blocksReading.Reads (part? entries "statement_blocks") rule.blocks ∧
      mappingReading.Reads (part? entries "mapping") rule.mapping ∧
      mappingNameReading.Reads (part? entries "mapping_name") rule.mappingName
  Refuses entries e :=
    nameReading.Refuses (part? entries "name") e ∨
      nameReading.Accepts (part? entries "name") ∧
        (blocksReading.Refuses (part? entries "statement_blocks") e ∨
          blocksReading.Accepts (part? entries "statement_blocks") ∧
            (mappingReading.Refuses (part? entries "mapping") e ∨
              mappingReading.Accepts (part? entries "mapping") ∧
                mappingNameReading.Refuses (part? entries "mapping_name") e))

def reading : Reading Json Rule := partsReading.inForm .object .rule

def listReading : Reading Json (List Rule) :=
  (reading.items fun _ cause => cause).inForm .array fun _ => .ruleList

end Rule

open Json (Form)
open Reading (Describes)

theorem Value.describes_load : reading.Describes load where
  ok_iff doc value := by
    rw [load_eq_ok_iff]
    constructor
    · intro h
      have hdoc := toJson_of_ofJson h
      have hback := ofJson_toJson_eq value
      rw [hdoc, h] at hback
      exact ⟨hdoc, (Except.ok.inj hback).symm⟩
    · rintro ⟨rfl, hfinite⟩
      rw [ofJson_toJson_eq, hfinite]
  error_iff doc e := load_eq_error_iff

namespace Statement

theorem loadItems_eq_mapItems (index : Nat) (docs : List Json) :
    loadItems index docs =
      mapItems (fun item => (Value.load item.1).mapError (.inItem item.2)) (docs.zipIdx index) := by
  induction docs generalizing index with
  | nil => rfl
  | cons doc rest ih =>
    rw [loadItems, List.zipIdx_cons, mapItems, ih]
    rcases Value.load doc with e | value
    · rfl
    · simp only [Except.mapError]
      rcases mapItems _ (rest.zipIdx (index + 1)) with e | values <;> rfl

theorem describes_loadItems : (Value.reading.items .inItem).Describes (loadItems 0) := by
  rw [funext (loadItems_eq_mapItems 0)]
  exact Value.describes_load.itemsAt .inItem

theorem load_eq (doc : Json) : load doc = (Form.array.load .statement (loadItems 0) doc).map mk := by
  cases doc with
  | array items =>
    change load (.array items) = (loadItems 0 items).map mk
    rw [load]
    rcases loadItems 0 items with e | values <;> rfl
  | _ => rfl

theorem describes_load : reading.Describes load := by
  rw [funext load_eq]
  exact (describes_loadItems.inForm .array .statement).as mk

end Statement

theorem Block.load_eq (doc : Json) :
    load doc = Form.array.load .block (mapItems Statement.load) doc := by
  cases doc <;> rfl

theorem Block.describes_load : reading.Describes load := by
  rw [funext load_eq]
  exact Statement.describes_load.items.inForm .array .block

namespace Mapping

theorem describes_loadEntry : entryReading.Describes loadEntry where
  ok_iff entry loaded := by
    simp only [entryReading, ← Value.describes_load.ok_iff, loadEntry]
    rcases Value.load entry.2 with e | value <;> simp [Prod.ext_iff, eq_comm]
  error_iff entry e := by
    simp only [entryReading, ← Value.describes_load.error_iff, loadEntry]
    rcases Value.load entry.2 with d | value <;> simp

theorem describes_load :
    reading.Describes (Form.object.load .inlineMapping (mapItems loadEntry)) :=
  describes_loadEntry.items.inForm .object .inlineMapping

end Mapping

namespace Rule

theorem describes_loadString (wrong : Json → ShapeFault) :
    (Reading.verbatim.inForm .text wrong).optional.Describes (loadString wrong) :=
  (Describes.verbatim.inForm .text wrong).optional rfl fun doc => by cases doc <;> rfl

theorem describes_loadBlocks : blocksReading.Describes loadBlocks :=
  (Block.describes_load.items.inForm .array .blockList).optional rfl fun doc => by cases doc <;> rfl

theorem describes_loadMapping : mappingReading.Describes loadMapping :=
  Mapping.describes_load.optional rfl fun doc => by cases doc <;> rfl

theorem describes_parts : partsReading.Describes fun entries => load (.object entries) where
  ok_iff entries rule := by
    simp only [load, bind_eq_ok_iff, (describes_loadString _).ok_iff, describes_loadBlocks.ok_iff,
      describes_loadMapping.ok_iff, pure_eq_ok_iff]
    constructor
    · rintro ⟨name, hname, blocks, hblocks, mapping, hmapping, mappingName, hmappingName, rfl⟩
      exact ⟨hname, hblocks, hmapping, hmappingName⟩
    · rintro ⟨hname, hblocks, hmapping, hmappingName⟩
      exact ⟨_, hname, _, hblocks, _, hmapping, _, hmappingName, rfl⟩
  error_iff entries e := by
    have hmade (rule : Rule) : (pure rule : Except Error Rule) = .error e ↔ False := by
      simp [pure, Except.pure]
    refine (describes_loadString _).bind_eq_error_iff fun name =>
      describes_loadBlocks.bind_eq_error_iff fun blocks =>
        describes_loadMapping.bind_eq_error_iff fun mapping => ?_
    rw [(describes_loadString _).bind_eq_error_iff fun mappingName => hmade _, and_false, or_false]
    exact Iff.rfl

theorem load_eq (doc : Json) :
    load doc = Form.object.load .rule (fun entries => load (.object entries)) doc := by
  cases doc <;> rfl

theorem describes_load : reading.Describes load := by
  rw [funext load_eq]
  exact describes_parts.inForm .object .rule

theorem loadAll_eq (doc : Json) :
    loadAll doc = Form.array.load (fun _ => .ruleList) (mapItems load) doc := by
  cases doc <;> rfl

theorem describes_loadAll : listReading.Describes loadAll := by
  rw [funext loadAll_eq]
  exact describes_load.items.inForm .array _

end Rule

namespace Json

def IsText (doc : Json) : Prop := ∃ text, doc = .string text

def IsObject (doc : Json) : Prop := ∃ entries, doc = .object entries

def IsArrayOf (sort : Json → Prop) (doc : Json) : Prop :=
  ∃ items, doc = .array items ∧ ∀ item ∈ items, sort item

variable {sort other : Json → Prop} {doc : Json}

theorem isArrayOf_congr (h : ∀ item, sort item ↔ other item) :
    doc.IsArrayOf sort ↔ doc.IsArrayOf other :=
  exists_congr fun _ => and_congr_right' (forall₂_congr fun item _ => h item)

theorem isArrayOf_and_small :
    doc.IsArrayOf (fun item => sort item ∧ ¬item.HoldsLarge) ↔
      doc.IsArrayOf sort ∧ ¬doc.HoldsLarge := by
  constructor
  · rintro ⟨items, rfl, h⟩
    refine ⟨⟨items, rfl, fun item hi => (h item hi).1⟩, ?_⟩
    rw [holdsLarge_array]
    exact fun ⟨item, hi, hl⟩ => (h item hi).2 hl
  · rintro ⟨⟨items, rfl, h⟩, hl⟩
    rw [holdsLarge_array] at hl
    exact ⟨items, rfl, fun item hi => ⟨h item hi, fun hitem => hl ⟨item, hi, hitem⟩⟩⟩

end Json

open Json (IsText IsObject IsArrayOf)

theorem Reading.accepts_array {r : Reading Json α} {tell : Nat → Error → Error}
    {wrong : Json → ShapeFault} {doc : Json} :
    ((r.items tell).inForm .array wrong).Accepts doc ↔ doc.IsArrayOf r.Accepts :=
  accepts_inForm.trans (exists_congr fun _ => and_congr_right' accepts_items)

theorem Reading.accepts_text {wrong : Json → ShapeFault} {doc : Json} :
    (verbatim.inForm .text wrong).Accepts doc ↔ doc.IsText :=
  accepts_inForm.trans (exists_congr fun text => and_iff_left ⟨text, rfl⟩)

theorem Value.accepts_reading {doc : Json} : reading.Accepts doc ↔ ¬doc.HoldsLarge :=
  describes_load.accepts_iff.trans exists_load_eq_ok_iff

theorem Statement.accepts_reading {doc : Json} :
    reading.Accepts doc ↔ doc.IsArrayOf (fun _ => True) ∧ ¬doc.HoldsLarge := by
  rw [reading, Reading.accepts_as, Reading.accepts_array, ← Json.isArrayOf_and_small]
  exact Json.isArrayOf_congr fun item => Value.accepts_reading.trans (iff_of_eq (true_and _)).symm

theorem Block.accepts_reading {doc : Json} :
    reading.Accepts doc ↔ doc.IsArrayOf (IsArrayOf fun _ => True) ∧ ¬doc.HoldsLarge := by
  rw [reading, Reading.accepts_array, ← Json.isArrayOf_and_small]
  exact Json.isArrayOf_congr fun item => Statement.accepts_reading

theorem Mapping.accepts_reading {doc : Json} :
    reading.Accepts doc ↔ doc.IsObject ∧ ¬doc.HoldsLarge := by
  have hentry (entry : String × Json) : entryReading.Accepts entry ↔ ¬entry.2.HoldsLarge := by
    rw [← Value.accepts_reading]
    exact ⟨fun ⟨_, _, value, h, _⟩ => ⟨value, h⟩,
      fun ⟨value, h⟩ => ⟨(entry.1, .ofValue value), rfl, value, h, rfl⟩⟩
  rw [reading, Reading.accepts_inForm]
  simp only [Reading.accepts_items, hentry]
  constructor
  · rintro ⟨entries, rfl, h⟩
    refine ⟨⟨entries, rfl⟩, ?_⟩
    rw [Json.Form.object, Json.holdsLarge_object]
    exact fun ⟨entry, he, hl⟩ => h entry he hl
  · rintro ⟨⟨entries, rfl⟩, hl⟩
    rw [Json.holdsLarge_object] at hl
    exact ⟨entries, rfl, fun entry he hentry => hl ⟨entry, he, hentry⟩⟩

namespace Rule

def Optionally (sort : Json → Prop) (entries : Entries Json) (key : String) : Prop :=
  ∀ doc, Entries.get? entries key = some doc → doc = .null ∨ sort doc

/-- The sorts of documents that the parts of a rule may be. Neither in the blocks nor in the mapping is there
a whole number that no signed word holds. -/
structure Grammatical (entries : Entries Json) : Prop where
  name : Optionally IsText entries "name"
  blocks : Optionally (IsArrayOf (IsArrayOf (IsArrayOf fun _ => True))) entries "statement_blocks"
  mapping : Optionally IsObject entries "mapping"
  mappingName : Optionally IsText entries "mapping_name"
  small : ∀ key ∈ ["statement_blocks", "mapping"], ∀ doc,
    Entries.get? entries key = some doc → ¬doc.HoldsLarge

variable {entries : Entries Json} {key : String} {sort : Json → Prop}

theorem part?_eq_some_iff {doc : Json} :
    part? entries key = some doc ↔ Entries.get? entries key = some doc ∧ doc ≠ .null := by
  unfold part?
  rcases Entries.get? entries key with _ | found
  · simp
  · cases found <;> simp +contextual [eq_comm, iff_def]

theorem accepts_part {r : Reading Json α} (h : ∀ doc, r.Accepts doc ↔ sort doc) :
    r.optional.Accepts (part? entries key) ↔ Optionally sort entries key := by
  simp only [Reading.accepts_optional, part?_eq_some_iff, and_imp, h, Optionally,
    or_iff_not_imp_left, ne_eq]

theorem optionally_and_small :
    Optionally (fun doc => sort doc ∧ ¬doc.HoldsLarge) entries key ↔
      Optionally sort entries key ∧
        ∀ doc, Entries.get? entries key = some doc → ¬doc.HoldsLarge := by
  have hnull : ¬Json.null.HoldsLarge := fun ⟨_, _, hp⟩ => nomatch hp
  constructor
  · intro h
    refine ⟨fun doc hd => (h doc hd).imp_right And.left, fun doc hd => ?_⟩
    obtain rfl | ⟨-, hsmall⟩ := h doc hd
    · exact hnull
    · exact hsmall
  · rintro ⟨hsort, hsmall⟩ doc hd
    exact (hsort doc hd).imp_right fun h => ⟨h, hsmall doc hd⟩

theorem accepts_blocks : blocksReading.Accepts (part? entries "statement_blocks") ↔
    Optionally (IsArrayOf (IsArrayOf (IsArrayOf fun _ => True))) entries "statement_blocks" ∧
      ∀ doc, Entries.get? entries "statement_blocks" = some doc → ¬doc.HoldsLarge := by
  rw [← optionally_and_small]
  refine accepts_part fun doc => ?_
  rw [Reading.accepts_array, ← Json.isArrayOf_and_small]
  exact Json.isArrayOf_congr fun block => Block.accepts_reading

theorem accepts_mapping : mappingReading.Accepts (part? entries "mapping") ↔
    Optionally IsObject entries "mapping" ∧
      ∀ doc, Entries.get? entries "mapping" = some doc → ¬doc.HoldsLarge := by
  rw [← optionally_and_small]
  exact accepts_part fun doc => Mapping.accepts_reading

theorem accepts_parts : partsReading.Accepts entries ↔ Grammatical entries := by
  have hname : nameReading.Accepts (part? entries "name") ↔ Optionally IsText entries "name" :=
    accepts_part fun doc => Reading.accepts_text
  have hmappingName : mappingNameReading.Accepts (part? entries "mapping_name") ↔
      Optionally IsText entries "mapping_name" := accepts_part fun doc => Reading.accepts_text
  constructor
  · rintro ⟨rule, hn, hb, hm, hmn⟩
    obtain ⟨hblocks, hlarge⟩ := accepts_blocks.1 ⟨_, hb⟩
    obtain ⟨hmapping, hmappingLarge⟩ := accepts_mapping.1 ⟨_, hm⟩
    exact ⟨hname.1 ⟨_, hn⟩, hblocks, hmapping, hmappingName.1 ⟨_, hmn⟩,
      List.forall_mem_cons.2 ⟨hlarge, List.forall_mem_singleton.2 hmappingLarge⟩⟩
  · rintro ⟨hn, hb, hm, hmn, hsmall⟩
    obtain ⟨hlarge, hmappingLarge⟩ := List.forall_mem_cons.1 hsmall
    obtain ⟨name, hn⟩ := hname.2 hn
    obtain ⟨blocks, hb⟩ := accepts_blocks.2 ⟨hb, hlarge⟩
    obtain ⟨mapping, hm⟩ := accepts_mapping.2 ⟨hm, List.forall_mem_singleton.1 hmappingLarge⟩
    obtain ⟨mappingName, hmn⟩ := hmappingName.2 hmn
    exact ⟨⟨name, blocks, mapping, mappingName⟩, hn, hb, hm, hmn⟩

theorem exists_loadAll_eq_ok_iff {doc : Json} : (∃ rules, loadAll doc = .ok rules) ↔
    doc.IsArrayOf fun rule => ∃ entries, rule = .object entries ∧ Grammatical entries := by
  rw [← describes_loadAll.accepts_iff, listReading, Reading.accepts_array]
  refine Json.isArrayOf_congr fun rule => ?_
  rw [reading, Reading.accepts_inForm]
  exact exists_congr fun entries => and_congr_right' accepts_parts

/-- A document has rules if and only if it is an array of objects whose parts are of the sorts that those of a
rule may be, whatever stands under other keys. Its rules are what is read from it in order; otherwise the first
rule that is refused tells why, and of its parts the first. Neither the rules nor what is told depends on
the order of the keys of a rule, and both may be had by taking the parts out of it one by one. -/
theorem loadAll_grammar (doc : Json) :
    ((∃ rules, loadAll doc = .ok rules) ↔
        doc.IsArrayOf fun rule => ∃ entries, rule = .object entries ∧ Grammatical entries) ∧
      (∀ rules, loadAll doc = .ok rules ↔ listReading.Reads doc rules) ∧
      (∀ e, loadAll doc = .error e ↔ listReading.Refuses doc e) ∧
      (∀ entries others,
        (∀ key ∈ partKeys, Entries.get? entries key = Entries.get? others key) →
          load (.object entries) = load (.object others)) ∧
      (∀ docs others, List.Forall₂ Permuted docs others →
        loadAll (.array docs) = loadAll (.array others)) ∧
      ∀ entries, Entries.Distinct entries → loadByRemoval entries = load (.object entries) :=
  ⟨exists_loadAll_eq_ok_iff, describes_loadAll.ok_iff doc, describes_loadAll.error_iff doc,
    fun _ _ => load_congr, fun _ _ h => loadAll_congr (h.imp fun _ _ => Permuted.load_eq),
    fun _ => loadByRemoval_eq⟩

theorem loadAll_grammar_first :
    let large : Json := .large 18446744073709551615 (by decide)
    let good : Entries Json := [("note", large),
      ("statement_blocks", .array [.array [.array [.string "set", .integer 1]]]),
      ("mapping", .object [("b", .integer 2), ("a", .null)]), ("name", .null)]
    let bad : Entries Json := [("mapping", .integer 1),
      ("statement_blocks", .array [.array [], .array [.array [.null, .array [large]], .integer 3]])]
    let rule : Rule := ⟨none, some [[⟨[.string "set", .integer 1]⟩]],
      some [("b", .ofValue (.integer 2)), ("a", .ofValue .null)], none⟩
    let refused : Json := .array [.object good, .object bad, .null]
    listReading.Reads (.array [.object good]) [rule] ∧ load (.object good.tail) = .ok rule ∧
      loadByRemoval good = .ok rule ∧
      listReading.Refuses refused (.inItem 1 (.shape (.largeInteger 18446744073709551615))) ∧
      loadAll (.array [.object good.reverse, .object bad.reverse, .null]) = loadAll refused := by
  intro large good bad rule refused
  obtain ⟨-, hreads, -, hignored, hpermuted, hremoval⟩ := loadAll_grammar (.array [.object good])
  obtain ⟨-, -, hrefuses, -, -, -⟩ := loadAll_grammar refused
  have hgood : Entries.Distinct good :=
    (by decide : ["note", "statement_blocks", "mapping", "name"].Nodup)
  have hbad : Entries.Distinct bad := (by decide : ["mapping", "statement_blocks"].Nodup)
  have hnote : "note" ∉ partKeys := by decide
  have htail : load (.object good) = load (.object good.tail) :=
    hignored _ _ fun key hk => if_neg (ne_of_mem_of_not_mem hk hnote).symm
  refine ⟨(hreads _).1 rfl, htail.symm.trans rfl, (hremoval good hgood).trans rfl, (hrefuses _).1 rfl, ?_⟩
  refine (hpermuted _ _ ?_).symm
  exact .cons (.keys hgood good.reverse_perm.symm) (.cons (.keys hbad bad.reverse_perm.symm)
    (.cons (.refl .null) .nil))

end Rule
end ClaimRules
