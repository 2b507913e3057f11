import ClaimRules.Proofs.Addressing
import ClaimRules.Proofs.Parts

/-! Folding of case in collections. Several keys of a map may become one, which then stands at the
place of the first of them and has the value of the last. -/

namespace ClaimRules

namespace Entries

variable {α : Type} {entries : Entries α} {key : String} {value : α}

theorem get?_eq_some_iff :
    get? entries key = some value ↔
      ∃ before after, entries = before ++ (key, value) :: after ∧
        ∀ entry ∈ before, entry.1 ≠ key := by
  induction entries with
  | nil => simp [get?]
  | cons entry rest ih =>
    obtain ⟨k, v⟩ := entry
    rw [get?]
    split
    · next hk =>
      constructor
      · intro h
        cases h
        exact ⟨[], rest, by rw [hk]; rfl, by simp⟩
      · rintro ⟨_ | ⟨first, before⟩, after, happend, hbefore⟩
        · cases happend
          rfl
        · -- an entry in front of the one that counts would have the key
          cases happend
          exact absurd hk (hbefore _ List.mem_cons_self)
    · next hk =>
      rw [ih]
      constructor
      · rintro ⟨before, after, rfl, hbefore⟩
        exact ⟨(k, v) :: before, after, rfl, List.forall_mem_cons.2 ⟨hk, hbefore⟩⟩
      · rintro ⟨_ | ⟨first, before⟩, after, happend, hbefore⟩
        · cases happend
          exact absurd rfl hk
        · cases happend
          exact ⟨before, after, rfl, fun entry he => hbefore entry (List.mem_cons_of_mem _ he)⟩

theorem get?_reverse_eq_some_iff :
    get? entries.reverse key = some value ↔
      ∃ before after, entries = before ++ (key, value) :: after ∧ ∀ entry ∈ after, entry.1 ≠ key := by
  rw [get?_eq_some_iff]
  constructor
  · rintro ⟨before, after, happend, hbefore⟩
    refine ⟨after.reverse, before.reverse, ?_, fun entry he => hbefore entry (List.mem_reverse.1 he)⟩
    rw [← List.reverse_inj, happend]
    simp
  · rintro ⟨before, after, rfl, hafter⟩
    exact ⟨after.reverse, before.reverse, by simp, fun entry he => hafter entry (List.mem_reverse.1 he)⟩

/-- Entries under new keys: each new key stands where it comes up first, and has the value of the last
entry that it is the new key of. -/
structure Rekeyed (f : String → String) (entries rekeyed : Entries α) : Prop where
  keys : rekeyed.keys = (entries.map fun entry => f entry.1).eraseDups
  distinct : rekeyed.Distinct
  mem_iff : ∀ key value, (key, value) ∈ rekeyed ↔
    ∃ before source after, entries = before ++ (source, value) :: after ∧ f source = key ∧
      ∀ entry ∈ after, f entry.1 ≠ key

theorem rekeyed_ofPairs (f : String → String) (entries : Entries α) :
    Rekeyed f entries (ofPairs (entries.map fun entry => (f entry.1, entry.2))) where
  keys := by
    rw [keys_ofPairs, List.map_map]
    rfl
  distinct := distinct_ofPairs _
  mem_iff key value := by
    have hmem : (key, value) ∈ ofPairs (entries.map fun entry => (f entry.1, entry.2)) ↔
        get? (entries.map fun entry => (f entry.1, entry.2)).reverse key = some value := by
      rw [← get?_ofPairs]
      exact ⟨get?_of_mem (distinct_ofPairs _), mem_of_get?⟩
    rw [hmem, get?_reverse_eq_some_iff]
    constructor
    · rintro ⟨before, after, happend, hafter⟩
      -- the pairs around the last one with the key are those of the entries around its source
      obtain ⟨front, back, rfl, rfl, hback⟩ := List.map_eq_append_iff.1 happend
      obtain ⟨⟨source, found⟩, behind, rfl, hsource, rfl⟩ := List.map_eq_cons_iff.1 hback
      cases hsource
      exact ⟨front, source, behind, rfl, rfl, fun entry he => hafter _ (List.mem_map.2 ⟨entry, he, rfl⟩)⟩
    · rintro ⟨before, source, after, rfl, rfl, hafter⟩
      refine ⟨before.map fun entry => (f entry.1, entry.2), after.map fun entry => (f entry.1, entry.2),
        List.map_append, fun pair hp => ?_⟩
      obtain ⟨entry, he, rfl⟩ := List.mem_map.1 hp
      exact hafter entry he

end Entries

namespace Statement

variable {fold : String → String} {items folded : List Value} {item : Value}

theorem forall₂_of_foldItems (h : foldItems fold items = .ok folded) :
    List.Forall₂ (fun item image => ∃ text, item = .string text ∧ image = .string (fold text))
      items folded := by
  induction items generalizing folded with
  | nil =>
    cases h
    exact .nil
  | cons first rest ih =>
    cases first with
    | string text =>
      unfold foldItems at h
      rcases hr : foldItems fold rest with found | others
      · rw [hr] at h
        cases h
      · rw [hr] at h
        cases h
        exact .cons ⟨text, rfl, rfl⟩ (ih hr)
    | _ => cases h

theorem foldItems_of_find? (h : items.find? (·.kind != .string) = some item) :
    foldItems fold items = .error item := by
  induction items with
  | nil => cases h
  | cons first rest ih =>
    cases first with
    | string text =>
      have hrest : rest.find? (·.kind != .string) = some item := h
      rw [foldItems, ih hrest]
    | _ =>
      cases h
      rfl

end Statement

def Verb.fold? : Verb → Option (String → String)
  | .lower => some Unicode.lowerText
  | .upper => some Unicode.upperText
  | _ => none

namespace Statement

variable {s : Statement} {ctx : Context} {verb : Verb} {fold : String → String} {r : Reference}
  {value folded : Value}

structure Folds (s : Statement) (bindings : Bindings) (verb : Verb) (fold : String → String)
    (r : Reference) (value : Value) : Prop where
  fold : verb.fold? = some fold
  verb : s.verb = .ok verb
  target : s.operand? 1 = some (.reference r)
  yields : s.Yields bindings 2 value

namespace Folds

theorem effect_eq (h : s.Folds ctx.bindings verb fold r value) :
    s.effect ctx = s.foldCase verb fold ctx.bindings := by
  have hverb : s.effect ctx = s.verbEffect verb ctx := effect_of_verb h.verb
  have hfold := h.fold
  rw [hverb]
  cases verb <;> cases hfold <;> rfl

theorem stores (h : s.Folds ctx.bindings verb fold r value) (ha : r.Assignable ctx.bindings)
    (hf : foldValue? fold value = some folded) : s.Stores ctx r folded := by
  have heffect : s.effect ctx = .ok (.store r folded) := by
    rw [h.effect_eq]
    exact foldCase_iff.2
      ⟨r, target_eq_ok_iff.2 h.target, value, value_eq_ok_iff.2 h.yields, folded, hf, rfl⟩
  exact Reference.stores_of_effect heffect ha

theorem execute_eq_error {items : List Value} {item : Value}
    (h : s.Folds ctx.bindings verb fold r (.array items))
    (hf : foldItems fold items = .error item) :
    s.execute ctx = (.error (.statement (.itemNotString verb item items)), ctx) := by
  have heffect : s.effect ctx = .error (.statement (.itemNotString verb item items)) := by
    rw [h.effect_eq]
    simp only [foldCase, target_eq_ok_iff.2 h.target, value_eq_ok_iff.2 h.yields, hf, bind,
      Except.bind]
    rfl
  rw [execute, heffect]

end Folds

/-- Of a map the keys are folded: they stand in the order in which they come up first, none of them
twice, each with the unchanged value of the last entry whose key has become it. Of an array of strings
each item is folded; an array with another item is refused, and nothing changes. -/
theorem fold_collections (h : s.Folds ctx.bindings verb fold r value) :
    (∀ entries, value = .map entries → r.Assignable ctx.bindings →
      ∃ folded, Entries.Rekeyed fold entries folded ∧ s.Stores ctx r (.map folded)) ∧
    (∀ items, value = .array items → r.Assignable ctx.bindings →
      (∀ item ∈ items, item.kind = .string) →
      ∃ folded, List.Forall₂ (fun item image => ∃ text, item = .string text ∧
        image = .string (fold text)) items folded ∧ s.Stores ctx r (.array folded)) ∧
    ∀ items, value = .array items → (∃ item ∈ items, item.kind ≠ .string) →
      s.FailsWith ctx .invalidValue ∧ ∃ item, items.find? (·.kind != .string) = some item ∧
        s.execute ctx = (.error (.statement (.itemNotString verb item items)), ctx) := by
  refine ⟨fun entries hv ha => ?_, fun items hv ha hs => ?_, fun items hv hs => ?_⟩
  · subst hv
    exact ⟨foldKeys fold entries, Entries.rekeyed_ofPairs fold entries, h.stores ha rfl⟩
  · subst hv
    obtain ⟨folded, hf⟩ : ∃ folded, foldItems fold items = .ok folded := foldItems_isOk_iff.2 hs
    have hvalue : foldValue? fold (.array items) = some (.array folded) := by
      rw [foldValue?, hf]
      rfl
    exact ⟨folded, forall₂_of_foldItems hf, h.stores ha hvalue⟩
  · subst hv
    obtain ⟨item, hfirst⟩ : ∃ item, items.find? (·.kind != .string) = some item := by
      rw [← Option.isSome_iff_exists, List.find?_isSome]
      simpa using hs
    have hexecute := h.execute_eq_error (foldItems_of_find? hfirst)
    exact ⟨⟨_, hexecute, rfl⟩, item, hfirst, hexecute⟩

theorem fold_collections_meeting :
    let upper (item : String) : Statement :=
      ⟨[.string "UPPER", .string "$out", .string item]⟩
    let entries : Entries Value :=
      [("ß", .integer 1), ("a", .string "x"), ("ss", .array []), ("A", .string "y"), ("b", .null)]
    let folded : Entries Value := [("SS", .array []), ("A", .string "y"), ("B", .null)]
    let strings : List Value := [.string "ﬁ", .string "σς"]
    let mixed : List Value := [.string "a", .null, .integer 0]
    let bindings : Bindings := [("m", .map entries), ("xs", .array strings),
      ("ys", .array mixed)]
    let ctx : Context := ⟨bindings, false⟩
    (upper "$m").execute ctx =
        (.ok .statementContinue, ⟨bindings ++ [("out", .map folded)], true⟩) ∧
      Entries.Rekeyed Unicode.upperText entries folded ∧
      (upper "$xs").Stores ctx ⟨"out", none⟩ (.array [.string "FI", .string "ΣΣ"]) ∧
      (upper "$ys").execute ctx = (.error (.statement (.itemNotString .upper .null mixed)), ctx) := by
  intro upper entries folded strings mixed bindings ctx
  have hfolds (item : String) (name : String) (value : Value)
      (hi : Operand.ofValue (.string item) = .reference ⟨name, none⟩)
      (hv : Entries.get? bindings name = some value) :
      (upper item).Folds ctx.bindings .upper Unicode.upperText ⟨"out", none⟩ value := by
    refine ⟨rfl, rfl, rfl, .reference ⟨name, none⟩, congrArg some hi, ?_⟩
    simp only [Operand.resolve, Reference.resolve, ctx, hv]
  have ha : (⟨"out", none⟩ : Reference).Assignable ctx.bindings := .inl rfl
  obtain ⟨hmap, -, -⟩ := fold_collections (hfolds "$m" "m" (.map entries) rfl rfl)
  obtain ⟨-, hstrings, -⟩ := fold_collections (hfolds "$xs" "xs" (.array strings) rfl rfl)
  obtain ⟨-, -, hother⟩ := fold_collections (hfolds "$ys" "ys" (.array mixed) rfl rfl)
  have hstored {s : Statement} {kept : Value} (value : Value) (hs : s.Stores ctx ⟨"out", none⟩ kept)
      (hv : s.execute ctx = (.ok .statementContinue, ⟨bindings ++ [("out", value)], true⟩)) :
      kept = value := by
    have hassign : ((⟨"out", none⟩ : Reference).assign kept ctx.bindings).2 =
        bindings ++ [("out", kept)] := rfl
    have h := hs.1.symm.trans hv
    rw [hassign] at h
    simpa using h
  have hexecute : (upper "$m").execute ctx =
      (.ok .statementContinue, ⟨bindings ++ [("out", .map folded)], true⟩) := rfl
  refine ⟨hexecute, ?_, ?_, ?_⟩
  · obtain ⟨kept, hkept, hstores⟩ := hmap entries rfl ha
    cases hstored _ hstores hexecute
    exact hkept
  · have hkinds : ∀ item ∈ strings, item.kind = .string := by simp [strings, Value.kind]
    obtain ⟨kept, -, hstores⟩ := hstrings strings rfl ha hkinds
    cases hstored (.array [.string "FI", .string "ΣΣ"]) hstores rfl
    exact hstores
  · obtain ⟨-, item, hitem, herror⟩ := hother mixed rfl ⟨.null, by simp [mixed], by decide⟩
    cases hitem
    exact herror

end Statement
end ClaimRules
