import ClaimRules.Proofs.Noninterference
import ClaimRules.Proofs.Writes

/-! When the steps of a statement succeed: finding its verb, reading its operands, computing with their
values, and writing through a reference. -/

namespace ClaimRules

namespace Value

def IsCollection (value : Value) : Prop :=
  value.kind = .string ∨ value.kind = .array ∨ value.kind = .map

/-- What has a case: of arrays only those of strings. -/
def IsFoldable : Value → Prop
  | .string _ => True
  | .map _ => True
  | .array items => ∀ item ∈ items, item.kind = .string
  | _ => False

/-- Whether it makes sense to look for the member: the keys of a map and the parts of a string are
strings. -/
def MayHold (collection member : Value) : Prop :=
  collection.kind = .array ∨
    (collection.kind = .map ∨ collection.kind = .string) ∧ member.kind = .string

/-- Values of one kind can be told apart; only strings and numbers have an order. -/
def Comparable (left : Value) (operator : String) (right : Value) : Prop :=
  left.kind = right.kind ∧
    (operator ∈ ["==", "!="] ∨
      operator ∈ ["<", ">", "<=", ">="] ∧ left.kind ∈ [Kind.string, .integer, .real])

end Value

def Regex.IsPattern (pattern : String) : Prop := ∃ re, Regex.compile pattern = .ok re

namespace Reference

/-- A reference that a value can be stored through: a variable is bound if need be, an item has to
exist. -/
def Assignable (r : Reference) (bindings : Bindings) : Prop :=
  r.index = none ∨ ∃ value, r.resolve bindings = .ok value

theorem map_value_slotIn (r : Reference) (bindings : Bindings) :
    (r.slotIn bindings).map Slot.value = r.resolve bindings := by
  rw [← map_value_place, place_eq_slotIn]
  rcases r.slotIn bindings with e | slot <;> rfl

theorem resolve_eq_ok_iff {r : Reference} {bindings : Bindings} {value : Value} :
    r.resolve bindings = .ok value ↔ ∃ slot, r.slotIn bindings = .ok slot ∧ slot.value = value := by
  rw [← map_value_slotIn]
  rcases r.slotIn bindings with e | slot <;> simp [Except.map]

end Reference

namespace Effect

variable {r : Reference} {value item : Value} {bindings : Bindings}

theorem writes_store_iff :
    (∃ writes, (store r value).writes bindings = .ok writes) ↔ r.Assignable bindings := by
  unfold Effect.writes Reference.Assignable
  rcases hi : r.index with _ | index
  · simp [hi]
  · simp only [hi, Reference.resolve_eq_ok_iff, reduceCtorEq, false_or]
    rcases r.slotIn bindings with e | slot <;> simp [Except.map]

theorem writes_push_iff :
    (∃ writes, (push r item).writes bindings = .ok writes) ↔
      ∃ items, r.resolve bindings = .ok (.array items) := by
  simp only [Effect.writes, Reference.resolve_eq_ok_iff, bind_eq_ok_iff]
  constructor
  · rintro ⟨writes, ⟨value, put⟩, hs, hw⟩
    cases value with
    | array items => exact ⟨items, _, hs, rfl⟩
    | _ => exact absurd hw throw_ne_ok
  · rintro ⟨items, ⟨value, put⟩, hs, rfl⟩
    exact ⟨_, _, hs, rfl⟩

end Effect

theorem Verb.ofName?_eq_some_iff {name : String} {verb : Verb} :
    Verb.ofName? name = some verb ↔ Unicode.lowerText name = verb.name := by
  unfold ofName?
  generalize Unicode.lowerText name = folded
  constructor
  · intro h
    exact (beq_iff_eq.1 (List.find?_some (p := fun v : Verb => v.name == folded) h)).symm
  · rintro rfl
    cases verb <;> decide

theorem Criteria.ofName?_eq_some_iff {name : String} {c : Criteria} :
    Criteria.ofName? name = some c ↔ Unicode.lowerText name = c.name := by
  unfold ofName?
  generalize Unicode.lowerText name = folded
  constructor
  · intro h
    exact (beq_iff_eq.1 (List.find?_some (p := fun c : Criteria => c.name == folded) h)).symm
  · rintro rfl
    cases c <;> decide

theorem Outcome.ofStatus?_isSome_iff {status : String} :
    (∃ outcome, Outcome.ofStatus? status = some outcome) ↔
      Unicode.lowerText status ∈ ["rule_succeeds", "rule_fails"] := by
  unfold ofStatus?
  split <;> simp_all

namespace Template

theorem fillPieces_isOk_iff {ε : Type} {find : Reference → Except ε String} {pieces : List Piece}
    (start : Nat) :
    (∃ text, fillPieces find pieces = .ok text) ↔
      ∀ r ∈ (occurrencesFrom start pieces).map Occurrence.reference,
        ∃ found, find r = .ok found := by
  induction pieces generalizing start with
  | nil => simp [fillPieces, occurrencesFrom]
  | cons piece rest ih =>
    cases piece with
    | plain chars =>
      rw [occurrencesFrom, ← ih, fillPieces]
      rcases fillPieces find rest with e | text <;> simp
    | reference r chars =>
      rw [occurrencesFrom, List.map_cons, List.forall_mem_cons, ← ih, fillPieces]
      rcases find r with e | found
      · simp
      · rcases fillPieces find rest with e | text <;> simp

theorem substitute_isOk_iff {text : String} {bindings : Bindings} :
    (∃ filled, substitute text bindings = .ok filled) ↔
      ∀ r ∈ references text, ∃ value, r.resolve bindings = .ok value := by
  have hfind (r : Reference) : (∃ found, (r.resolve bindings).map Value.splice = .ok found) ↔
      ∃ value, r.resolve bindings = .ok value := by
    rcases r.resolve bindings with e | value <;> simp [Except.map]
  unfold references occurrences
  simp only [← hfind]
  rw [← fillPieces_isOk_iff, substitute]
  rcases fillPieces (fun r => (r.resolve bindings).map Value.splice) (pieces text) with e | chars <;>
    simp [Except.map]

end Template

namespace Statement

variable {s : Statement} {verb : Verb} {bindings : Bindings} {index : Nat} {value : Value}
  {r : Reference} {text : String} {items : List Value}

def operand? (s : Statement) (index : Nat) : Option Operand := s.items[index]?.map Operand.ofValue

/-- The item is there and stands for the value. -/
def Yields (s : Statement) (bindings : Bindings) (index : Nat) (value : Value) : Prop :=
  ∃ operand, s.operand? index = some operand ∧ operand.resolve bindings = .ok value

def HasTarget (s : Statement) (bindings : Bindings) : Prop :=
  ∃ r, s.operand? 1 = some (.reference r) ∧ r.Assignable bindings

/-- The statement fails with an error of the kind and changes nothing. -/
def FailsWith (s : Statement) (ctx : Context) (kind : ErrorKind) : Prop :=
  ∃ e, s.execute ctx = (.error e, ctx) ∧ e.kind = kind

theorem target_eq_ok_iff :
    s.target verb index = .ok r ↔ s.operand? index = some (.reference r) := by
  simp only [target, operand?, bind_eq_ok_iff, item_eq_ok_iff, Option.map_eq_some_iff]
  refine exists_congr fun item => and_congr_right fun _ => ?_
  rcases Operand.ofValue item with v | r' <;> simp [pure_eq_ok_iff, throw_ne_ok]

theorem value_eq_ok_iff :
    s.value verb index bindings = .ok value ↔ s.Yields bindings index value := by
  simp only [Statement.value, Yields, operand?, bind_eq_ok_iff, item_eq_ok_iff,
    Option.map_eq_some_iff]
  constructor
  · rintro ⟨item, hi, hv⟩
    exact ⟨_, ⟨item, hi, rfl⟩, hv⟩
  · rintro ⟨_, ⟨item, hi, rfl⟩, hv⟩
    exact ⟨item, hi, hv⟩

theorem yields_reference_iff (h : s.operand? index = some (.reference r)) :
    s.Yields bindings index value ↔ r.resolve bindings = .ok value := by
  simp only [Yields, h, Option.some.injEq, exists_eq_left', Operand.resolve]

theorem string_eq_ok_iff :
    s.string verb index bindings = .ok text ↔ s.Yields bindings index (.string text) := by
  have hvalue : s.value verb index bindings = .ok (.string text) ↔ _ := value_eq_ok_iff
  rw [← hvalue, string, bind_eq_ok_iff]
  constructor
  · rintro ⟨value, hv, h⟩
    cases value <;> simp only [pure_eq_ok_iff, throw_ne_ok] at h
    rw [hv, h]
  · intro hv
    exact ⟨_, hv, rfl⟩

theorem array_eq_ok_iff :
    s.array verb index bindings = .ok items ↔ s.Yields bindings index (.array items) := by
  have hvalue : s.value verb index bindings = .ok (.array items) ↔ _ := value_eq_ok_iff
  rw [← hvalue, array, bind_eq_ok_iff]
  constructor
  · rintro ⟨value, hv, h⟩
    cases value <;> simp only [pure_eq_ok_iff, throw_ne_ok] at h
    rw [hv, h]
  · intro hv
    exact ⟨_, hv, rfl⟩

theorem rawString_eq_ok_iff :
    s.rawString verb index = .ok text ↔ s.items[index]? = some (.string text) := by
  rw [rawString, bind_eq_ok_iff]
  constructor
  · rintro ⟨value, hv, h⟩
    cases value <;> simp only [pure_eq_ok_iff, throw_ne_ok] at h
    rw [← item_eq_ok_iff, hv, h]
  · intro hv
    exact ⟨_, item_eq_ok_iff.2 hv, rfl⟩

theorem compilePattern_isOk_iff :
    (∃ re, compilePattern verb text = .ok re) ↔ Regex.IsPattern text := by
  unfold compilePattern Regex.IsPattern
  rcases Regex.compile text with fault | re <;> simp

theorem criteria_isOk_iff :
    (∃ c, s.criteria verb index bindings = .ok c) ↔
      ∃ text, s.Yields bindings index (.string text) ∧
        ∃ c : Criteria, Unicode.lowerText text = c.name := by
  simp only [criteria, bind_eq_ok_iff, string_eq_ok_iff, ← Criteria.ofName?_eq_some_iff]
  constructor
  · rintro ⟨c, text, ht, h⟩
    rcases hc : Criteria.ofName? text with _ | c'
    · simp only [hc, throw_ne_ok] at h
    · exact ⟨text, ht, c', hc⟩
  · rintro ⟨text, ht, c, h⟩
    exact ⟨c, text, ht, by rw [h]; rfl⟩

theorem verb_eq_ok_iff :
    s.verb = .ok verb ↔
      ∃ name, s.items[0]? = some (.string name) ∧ Unicode.lowerText name = verb.name := by
  unfold Statement.verb
  rcases s.items with _ | ⟨item, rest⟩
  · simp
  · cases item with
    | string name =>
      simp only [List.getElem?_cons_zero, Option.some.injEq, Value.string.injEq, exists_eq_left',
        ← Verb.ofName?_eq_some_iff]
      rcases Verb.ofName? name with _ | verb' <;> simp
    | _ => simp

theorem sizeOf?_isSome_iff : (∃ n, sizeOf? value = some n) ↔ value.IsCollection := by
  cases value <;> simp [sizeOf?, Value.IsCollection, Value.kind]

theorem foldItems_isOk_iff {fold : String → String} :
    (∃ folded, foldItems fold items = .ok folded) ↔ ∀ item ∈ items, item.kind = .string := by
  induction items with
  | nil => simp [foldItems]
  | cons item rest ih =>
    rw [List.forall_mem_cons, ← ih]
    cases item with
    | string text =>
      rw [foldItems]
      rcases foldItems fold rest with e | folded <;> simp [Value.kind]
    | _ => simp [foldItems, Value.kind]

theorem foldValue?_isSome_iff {fold : String → String} :
    (∃ folded, foldValue? fold value = some folded) ↔ value.IsFoldable := by
  cases value with
  | array items =>
    have hitems : (∃ folded, foldItems fold items = .ok folded) ↔ _ := foldItems_isOk_iff
    rw [Value.IsFoldable, ← hitems, foldValue?]
    rcases foldItems fold items with e | folded <;> simp [Except.toOption]
  | _ => simp [foldValue?, Value.IsFoldable]

theorem contains?_isSome_iff {collection member : Value} :
    (∃ found, contains? collection member = some found) ↔ collection.MayHold member := by
  cases collection <;> cases member <;> simp [contains?, Value.MayHold, Value.kind]

theorem OrderTest.ofOperator?_isSome_iff :
    (∃ test, OrderTest.ofOperator? text = some test) ↔ text ∈ ["<", ">", "<=", ">="] := by
  unfold OrderTest.ofOperator?
  split <;> simp_all

theorem order?_isSome_iff {left right : Value} (h : left.kind = right.kind) :
    (∃ order, order? left right = some order) ↔ left.kind ∈ [Kind.string, .integer, .real] := by
  cases left <;> cases right <;> simp_all [order?, Value.kind]

theorem compareValues_isOk_iff {left right : Value} (h : left.kind = right.kind) :
    (∃ result, compareValues left text right = .ok result) ↔ left.Comparable text right := by
  rw [Value.Comparable, ← order?_isSome_iff h, ← OrderTest.ofOperator?_isSome_iff]
  unfold compareValues
  split
  · simp [h]
  · simp [h]
  · next heq hne =>
    have hmem : text ∉ ["==", "!="] := by simpa using ⟨heq, hne⟩
    rcases OrderTest.ofOperator? text with _ | test
    · simp [hmem]
    · rcases order? left right with _ | order <;> simp [h, hmem]

end Statement
end ClaimRules
