import ClaimRules.Proofs.Parts

/-! The order of keys. What stands under the keys of an object does not depend on their order, and is still
there when what stands under other keys is taken out, although this moves entries. A rule is loaded from
what stands under four keys, hence in the same way from any order of them. -/

namespace ClaimRules

variable {α : Type}

namespace Entries

variable {entries others : Entries α}

theorem Distinct.perm (hd : Distinct entries) (h : entries.Perm others) : Distinct others :=
  (h.map Prod.fst).nodup_iff.1 hd

theorem get?_perm (hd : Distinct entries) (h : entries.Perm others) (key : String) :
    get? entries key = get? others key :=
  Option.ext fun _ =>
    ⟨fun hg => get?_of_mem (hd.perm h) (h.mem_iff.1 (mem_of_get? hg)),
      fun hg => get?_of_mem hd (h.mem_iff.2 (mem_of_get? hg))⟩

/-- Takes out what stands under a key. The last entry goes to its place. -/
def swapRemove (key : String) : Entries α → Option α × Entries α
  | [] => (none, [])
  | (k, value) :: rest =>
    if k = key then (some value, rest.getLast?.toList ++ rest.dropLast)
    else ((swapRemove key rest).1, (k, value) :: (swapRemove key rest).2)

theorem swapRemove_fst (key : String) (entries : Entries α) :
    (swapRemove key entries).1 = get? entries key := by
  induction entries with
  | nil => rfl
  | cons entry rest ih =>
    rw [swapRemove, get?]
    split
    · rfl
    · exact ih

/-- What is left is all but the entry that is taken out. -/
theorem swapRemove_perm (key : String) (entries : Entries α) :
    entries.Perm (((get? entries key).map (key, ·)).toList ++ (swapRemove key entries).2) := by
  induction entries with
  | nil => exact .nil
  | cons entry rest ih =>
    obtain ⟨k, value⟩ := entry
    rw [swapRemove, get?]
    split
    · next hk =>
      subst hk
      refine .cons _ ?_
      rcases List.eq_nil_or_concat rest with rfl | ⟨front, last, rfl⟩
      · exact .nil
      · simp
    · exact (ih.cons _).trans List.perm_middle.symm

theorem get?_swapRemove (hd : Distinct entries) {key other : String} (h : other ≠ key) :
    get? (swapRemove key entries).2 other = get? entries other := by
  rw [get?_perm hd (swapRemove_perm key entries)]
  rcases get? entries key with _ | value
  · rfl
  · simp [get?, h.symm]

theorem distinct_swapRemove (hd : Distinct entries) (key : String) :
    Distinct (swapRemove key entries).2 :=
  (hd.perm (swapRemove_perm key entries)).sublist ((List.sublist_append_right _ _).map Prod.fst)

end Entries

namespace Rule

def partKeys : List String := ["name", "statement_blocks", "mapping", "mapping_name"]

inductive Permuted : Json → Json → Prop where
  | refl (doc : Json) : Permuted doc doc
  | keys {entries others : Entries Json} (hd : Entries.Distinct entries)
      (h : entries.Perm others) : Permuted (.object entries) (.object others)

def present? : Option Json → Option Json
  | some .null => none
  | found => found

/-- Loads the rule of an object by taking out its parts one after the other. -/
def loadByRemoval (entries : Entries Json) : Except Error Rule := do
  let (found, entries) := Entries.swapRemove "name" entries
  let name ← loadString .ruleName (present? found)
  let (found, entries) := Entries.swapRemove "statement_blocks" entries
  let blocks ← loadBlocks (present? found)
  let (found, entries) := Entries.swapRemove "mapping" entries
  let mapping ← loadMapping (present? found)
  let (found, _) := Entries.swapRemove "mapping_name" entries
  let mappingName ← loadString .mappingName (present? found)
  return ⟨name, blocks, mapping, mappingName⟩

variable {entries others : Entries Json}

theorem load_congr (h : ∀ key ∈ partKeys, Entries.get? entries key = Entries.get? others key) :
    load (.object entries) = load (.object others) := by
  have hpart (key : String) (hk : key ∈ partKeys) : part? entries key = part? others key := by
    rw [part?, part?, h key hk]
  rw [load, load, hpart "name" (by decide), hpart "statement_blocks" (by decide),
    hpart "mapping" (by decide), hpart "mapping_name" (by decide)]

theorem Permuted.load_eq {doc other : Json} (h : Permuted doc other) : load doc = load other := by
  cases h with
  | refl => rfl
  | keys hd h => exact load_congr fun key _ => Entries.get?_perm hd h key

theorem loadAll_congr {docs others : List Json}
    (h : List.Forall₂ (fun doc other => load doc = load other) docs others) :
    loadAll (.array docs) = loadAll (.array others) := by
  change mapItems load docs = mapItems load others
  induction h with
  | nil => rfl
  | cons hdoc _ ih => simp only [mapItems, hdoc, ih]

theorem loadByRemoval_eq (hd : Entries.Distinct entries) :
    loadByRemoval entries = load (.object entries) := by
  have hpart (key : String) : part? entries key = present? (Entries.get? entries key) := rfl
  have hname := Entries.distinct_swapRemove hd "name"
  have hblocks := Entries.distinct_swapRemove hname "statement_blocks"
  -- what is taken out under one key leaves what stands under the others
  have hb := Entries.get?_swapRemove hd (by decide : "statement_blocks" ≠ "name")
  have hm := (Entries.get?_swapRemove hname (by decide : "mapping" ≠ "statement_blocks")).trans
    (Entries.get?_swapRemove hd (by decide))
  have hn := (Entries.get?_swapRemove hblocks (by decide : "mapping_name" ≠ "mapping")).trans
    ((Entries.get?_swapRemove hname (by decide)).trans (Entries.get?_swapRemove hd (by decide)))
  simp only [loadByRemoval, load, hpart, Entries.swapRemove_fst, hb, hm, hn]

end Rule
end ClaimRules
