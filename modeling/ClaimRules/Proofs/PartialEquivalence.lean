import ClaimRules.Proofs.Equality
import ClaimRules.Proofs.KeyOrder

/-! Equality of values is a partial equivalence: it is symmetric and transitive, and what is equal to
itself is what holds nothing that is not a number. It does not see the order of entries at any depth, and
it tells the types of values apart at every place. -/

namespace ClaimRules

theorem forall₂_replace {α β : Type} {R : α → β → Prop} {a b : α} {before after : List α}
    {others : List β} (hab : ∀ c, R a c → R b c) (h : List.Forall₂ R (before ++ a :: after) others) :
    List.Forall₂ R (before ++ b :: after) others := by
  induction before generalizing others with
  | nil =>
    cases h with
    | cons hfirst hrest => exact .cons (hab _ hfirst) hrest
  | cons first rest ih =>
    cases h with
    | cons hfirst hrest => exact .cons hfirst (ih hrest)

namespace Value

variable {value other third : Value}

theorem kind_eq_of_same (h : value.same other = true) : value.kind = other.kind := by
  cases value <;> cases other <;> first | rfl | simp [same] at h

theorem same_self_part {part : Value} (hv : value.DistinctKeys) (h : value.same value = true)
    (hp : Part part value) : part.same part = true := by
  induction hp with
  | self => exact h
  | item hi _ ih =>
    obtain ⟨others, hothers, hitems⟩ := same_array_iff.1 h
    cases hothers
    exact ih (regular_array.1 hv _ hi) (List.forall₂_same.1 hitems _ hi)
  | entry he _ ih =>
    obtain ⟨hd, hall⟩ := regular_map.1 hv
    obtain ⟨others, hothers, -, hentries⟩ := same_map_iff.1 h
    cases hothers
    obtain ⟨found, hg, hs⟩ := hentries _ he
    rw [Entries.get?_of_mem hd he] at hg
    cases hg
    exact ih (hall _ he) hs

theorem same_self_iff (hv : value.DistinctKeys) :
    value.same value = true ↔ ∀ x, Part (.real x) value → x.isNaN = false := by
  refine ⟨fun h x hp => ?_, fun h => same_self ⟨hv.keys, h⟩⟩
  have hx : (real x).same (real x) = true := same_self_part hv h hp
  rw [same, Binary64.same, Bool.and_eq_true, Bool.and_eq_true, Bool.not_eq_true'] at hx
  exact hx.1.1

/-- The entries of maps inside a value are permuted, at any depth. -/
inductive Rearranged : Value → Value → Prop where
  | refl (value : Value) : Rearranged value value
  | trans {value other third : Value} (h : Rearranged value other) (hother : Rearranged other third) :
      Rearranged value third
  | permute {entries others : Entries Value} (h : entries.Perm others) :
      Rearranged (.map entries) (.map others)
  | item {a b : Value} (before after : List Value) (h : Rearranged a b) :
      Rearranged (.array (before ++ a :: after)) (.array (before ++ b :: after))
  | entry {a b : Value} (before after : Entries Value) (key : String) (h : Rearranged a b) :
      Rearranged (.map (before ++ (key, a) :: after)) (.map (before ++ (key, b) :: after))

namespace Rearranged

theorem symm (h : Rearranged value other) : Rearranged other value := by
  induction h with
  | refl value => exact .refl value
  | trans _ _ ih ihother => exact .trans ihother ih
  | permute h => exact .permute h.symm
  | item before after _ ih => exact .item before after ih
  | entry before after key _ ih => exact .entry before after key ih

theorem distinctKeys (h : Rearranged value other) (hv : value.DistinctKeys) :
    other.DistinctKeys := by
  induction h with
  | refl => exact hv
  | trans _ _ ih ihother => exact ihother (ih hv)
  | permute h =>
    obtain ⟨hd, hall⟩ := regular_map.1 hv
    exact regular_map.2 ⟨hd.perm h, fun entry he => hall entry (h.mem_iff.2 he)⟩
  | item before after _ ih =>
    obtain ⟨hbefore, hrest⟩ := List.forall_mem_append.1 (regular_array.1 hv)
    obtain ⟨ha, hafter⟩ := List.forall_mem_cons.1 hrest
    exact regular_array.2
      (List.forall_mem_append.2 ⟨hbefore, List.forall_mem_cons.2 ⟨ih ha, hafter⟩⟩)
  | @entry a b before after key _ ih =>
    obtain ⟨hd, hall⟩ := regular_map.1 hv
    obtain ⟨hbefore, hrest⟩ := List.forall_mem_append.1 hall
    obtain ⟨ha, hafter⟩ := List.forall_mem_cons.1 hrest
    have hkeys : Entries.Distinct (before ++ (key, b) :: after) := by
      simpa [Entries.Distinct, Entries.keys] using hd
    exact regular_map.2
      ⟨hkeys, List.forall_mem_append.2 ⟨hbefore, List.forall_mem_cons.2 ⟨ih ha, hafter⟩⟩⟩

theorem same_of_same (h : Rearranged value other) (hs : value.same third = true) :
    other.same third = true := by
  induction h generalizing third with
  | refl => exact hs
  | trans _ _ ih ihother => exact ihother (ih hs)
  | permute h =>
    obtain ⟨thirds, rfl, hlength, hentries⟩ := same_map_iff.1 hs
    refine same_map_iff.2 ⟨thirds, rfl, h.length_eq.symm.trans hlength, fun entry he => ?_⟩
    exact hentries entry (h.mem_iff.2 he)
  | item before after _ ih =>
    obtain ⟨thirds, rfl, hitems⟩ := same_array_iff.1 hs
    exact same_array_iff.2 ⟨thirds, rfl, forall₂_replace (fun _ => ih) hitems⟩
  | entry before after key _ ih =>
    obtain ⟨thirds, rfl, hlength, hentries⟩ := same_map_iff.1 hs
    obtain ⟨hbefore, hrest⟩ := List.forall_mem_append.1 hentries
    obtain ⟨⟨found, hg, ha⟩, hafter⟩ := List.forall_mem_cons.1 hrest
    refine same_map_iff.2 ⟨thirds, rfl, by simpa using hlength, ?_⟩
    exact List.forall_mem_append.2
      ⟨hbefore, List.forall_mem_cons.2 ⟨⟨found, hg, ih ha⟩, hafter⟩⟩

theorem same_eq (h : Rearranged value other) (third : Value) :
    other.same third = value.same third :=
  Bool.eq_iff_iff.2 ⟨h.symm.same_of_same, h.same_of_same⟩

end Rearranged

inductive Step where
  | item (index : Nat)
  | entry (key : String)
  deriving DecidableEq, Repr

def partAt? : List Step → Value → Option Value
  | [], value => some value
  | .item index :: place, .array items => items[index]?.bind (partAt? place)
  | .entry key :: place, .map entries => (Entries.get? entries key).bind (partAt? place)
  | _, _ => none

theorem partAt?_item_iff {index : Nat} {place : List Step} {part : Value} :
    value.partAt? (.item index :: place) = some part ↔
      ∃ items item, value = .array items ∧ items[index]? = some item ∧
        item.partAt? place = some part := by
  cases value <;> simp [partAt?, Option.bind_eq_some_iff]

theorem partAt?_entry_iff {key : String} {place : List Step} {part : Value} :
    value.partAt? (.entry key :: place) = some part ↔
      ∃ entries found, value = .map entries ∧ Entries.get? entries key = some found ∧
        found.partAt? place = some part := by
  cases value <;> simp [partAt?, Option.bind_eq_some_iff]

theorem same_partAt? {place : List Step} {part : Value} (h : value.same other = true)
    (hp : value.partAt? place = some part) :
    ∃ partner, other.partAt? place = some partner ∧ part.same partner = true := by
  induction place generalizing value other with
  | nil =>
    cases hp
    exact ⟨other, rfl, h⟩
  | cons step place ih =>
    cases step with
    | item index =>
      obtain ⟨items, item, rfl, hi, hp⟩ := partAt?_item_iff.1 hp
      obtain ⟨others, rfl, hitems⟩ := same_array_iff.1 h
      obtain ⟨hlength, hget⟩ := List.forall₂_iff_get.1 hitems
      obtain ⟨hlt, rfl⟩ := List.getElem?_eq_some_iff.1 hi
      have hlt' : index < others.length := hlength ▸ hlt
      obtain ⟨partner, hpartner, hs⟩ := ih (hget index hlt hlt') hp
      exact ⟨partner, partAt?_item_iff.2 ⟨_, _, rfl, List.getElem?_eq_getElem hlt', hpartner⟩, hs⟩
    | entry key =>
      obtain ⟨entries, found, rfl, hg, hp⟩ := partAt?_entry_iff.1 hp
      obtain ⟨others, rfl, -, hentries⟩ := same_map_iff.1 h
      obtain ⟨counterpart, hc, hs⟩ := hentries _ (Entries.mem_of_get? hg)
      obtain ⟨partner, hpartner, hs⟩ := ih hs hp
      exact ⟨partner, partAt?_entry_iff.2 ⟨_, _, rfl, hc, hpartner⟩, hs⟩

/-- Of values with distinct keys, equality is symmetric and transitive, and a value is equal to itself
unless it holds something at some depth that is not a number. Permuting entries of maps at any depth, on
either side, makes no difference; values that have parts of different types at the same place are never
equal. -/
theorem equality_laws (hv : value.DistinctKeys) (ho : other.DistinctKeys) :
    value.same other = other.same value ∧
      (∀ third, value.same other = true → other.same third = true → value.same third = true) ∧
      (value.same value = true ↔ ∀ x, Part (.real x) value → x.isNaN = false) ∧
      (∀ value' other', Rearranged value value' → Rearranged other other' →
        value'.same other' = value.same other) ∧
      (value.kind ≠ other.kind → value.same other = false) ∧
      ∀ place part partner, value.partAt? place = some part → other.partAt? place = some partner →
        part.kind ≠ partner.kind → value.same other = false := by
  have hsymm {a b : Value} (ha : a.DistinctKeys) (hb : b.DistinctKeys) : a.same b = b.same a :=
    Bool.eq_iff_iff.2 ⟨same_symm ha hb, same_symm hb ha⟩
  refine ⟨hsymm hv ho, fun third => same_trans, same_self_iff hv, ?_, ?_, ?_⟩
  · intro value' other' hvalue hother
    calc value'.same other'
        = value.same other' := hvalue.same_eq other'
      _ = other'.same value := hsymm hv (hother.distinctKeys ho)
      _ = other.same value := hother.same_eq value
      _ = value.same other := hsymm ho hv
  · exact fun hk => eq_false_of_ne_true fun h => hk (kind_eq_of_same h)
  · intro place part partner hp hpartner hk
    refine eq_false_of_ne_true fun h => hk ?_
    obtain ⟨found, hfound, hs⟩ := same_partAt? h hp
    rw [hpartner] at hfound
    cases hfound
    exact kind_eq_of_same hs

theorem equality_laws_nested :
    let one : Value := .real ⟨0x3ff0000000000000⟩
    let nan : Value := .real ⟨0x7ff8000000000000⟩
    let nested (inner : Entries Value) : Value := .map [("a", .array [.null, .map inner])]
    let plain := nested [("x", .integer 1), ("y", .string "")]
    let turned := nested [("y", .string ""), ("x", .integer 1)]
    let reals := nested [("x", one), ("y", .string "")]
    let odd := nested [("x", nan)]
    plain.same turned = true ∧ turned.same plain = true ∧ plain.same reals = false ∧
      odd.same odd = false := by
  intro one nan nested plain turned reals odd
  have hdistinct : plain.DistinctKeys ∧ reals.DistinctKeys ∧ odd.DistinctKeys := by
    simp [plain, reals, odd, nested, one, nan, DistinctKeys, Value.regular_map, Entries.Distinct,
      Entries.keys]
  obtain ⟨hplain, hreals, hodd⟩ := hdistinct
  have hturned : Rearranged plain turned :=
    .entry [] [] "a" (.item [.null] [] (.permute (.swap ..)))
  obtain ⟨-, -, -, hrearranged, -, -⟩ := equality_laws hplain hplain
  obtain ⟨-, -, -, -, -, hkinds⟩ := equality_laws hplain hreals
  obtain ⟨-, -, hnan, -, -, -⟩ := equality_laws hodd hodd
  have hequal : plain.same plain = true := rfl
  refine ⟨?_, ?_, ?_, ?_⟩
  · rw [hrearranged plain turned (.refl _) hturned, hequal]
  · rw [hrearranged turned plain hturned (.refl _), hequal]
  · exact hkinds [.entry "a", .item 1, .entry "x"] (.integer 1) one rfl rfl (by decide)
  · refine eq_false_of_ne_true fun h => ?_
    have hpart : Part nan odd :=
      .entry List.mem_cons_self (.item (.tail _ (.head _)) (.entry List.mem_cons_self (.self _)))
    cases hnan.1 h _ hpart

end Value
end ClaimRules
