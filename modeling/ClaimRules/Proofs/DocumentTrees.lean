import ClaimRules.Proofs.Parts

/-! Documents and values. A document has a value unless it holds a number that is too large for a signed
word, and the first such number is reported; the value keeps everything of the document. Of a value its
document loses the reals that are not finite, and nothing else. -/

namespace ClaimRules

namespace Json

/-- Induction over documents: what holds of an array may be shown from its items, and what holds of an
object from its members. -/
@[elab_as_elim]
theorem induction {motive : Json → Prop} (null : motive .null) (boolean : ∀ b, motive (.boolean b))
    (integer : ∀ n, motive (.integer n)) (large : ∀ n above, motive (.large n above))
    (real : ∀ x finite, motive (.real x finite)) (string : ∀ text, motive (.string text))
    (array : ∀ items, (∀ item ∈ items, motive item) → motive (.array items))
    (object : ∀ entries : Entries Json, (∀ entry ∈ entries, motive entry.2) →
      motive (.object entries)) (doc : Json) : motive doc :=
  match doc with
  | .null => null
  | .boolean b => boolean b
  | .integer n => integer n
  | .large n above => large n above
  | .real x finite => real x finite
  | .string text => string text
  | .array items =>
    array items fun item _ => induction null boolean integer large real string array object item
  | .object entries =>
    object entries fun entry _ =>
      induction null boolean integer large real string array object entry.2
termination_by doc
decreasing_by
  · decreasing_tactic
  · next hmem =>
    have hlt := List.sizeOf_lt_of_mem hmem
    rcases entry with ⟨key, doc⟩
    simp only [Prod.mk.sizeOf_spec, Json.object.sizeOf_spec] at hlt ⊢
    omega

/-- The documents that a document is made of, at any depth: itself, and the parts of its items or of its
members. -/
inductive Part : Json → Json → Prop where
  | self (doc : Json) : Part doc doc
  | item {part item : Json} {items : List Json} (hi : item ∈ items) (h : Part part item) :
      Part part (.array items)
  | entry {part : Json} {entry : String × Json} {entries : Entries Json}
      (he : entry ∈ entries) (h : Part part entry.2) : Part part (.object entries)

def HoldsLarge (doc : Json) : Prop := ∃ n above, Part (.large n above) doc

mutual

/-- The whole numbers that no signed word holds, in the order in which the document is written. -/
def larges : Json → List UInt64
  | .large n _ => [n]
  | .array items => largesOfItems items
  | .object entries => largesOfEntries entries
  | _ => []

def largesOfItems : List Json → List UInt64
  | [] => []
  | item :: rest => larges item ++ largesOfItems rest

def largesOfEntries : List (String × Json) → List UInt64
  | [] => []
  | (_, doc) :: rest => larges doc ++ largesOfEntries rest

end

theorem largesOfItems_eq_flatMap (items : List Json) : largesOfItems items = items.flatMap larges := by
  induction items with
  | nil => rfl
  | cons item rest ih => rw [largesOfItems, ih, List.flatMap_cons]

theorem largesOfEntries_eq_flatMap (entries : Entries Json) :
    largesOfEntries entries = entries.flatMap fun entry => larges entry.2 := by
  induction entries with
  | nil => rfl
  | cons entry rest ih => rw [largesOfEntries, ih, List.flatMap_cons]

variable {n : UInt64} {docs : List Json} {members : Entries Json}

theorem holdsLarge_array : (array docs).HoldsLarge ↔ ∃ doc ∈ docs, doc.HoldsLarge := by
  constructor
  · rintro ⟨n, above, hp⟩
    cases hp with
    | item hi hp => exact ⟨_, hi, n, above, hp⟩
  · rintro ⟨doc, hd, n, above, hp⟩
    exact ⟨n, above, .item hd hp⟩

theorem holdsLarge_object : (object members).HoldsLarge ↔ ∃ member ∈ members, member.2.HoldsLarge := by
  constructor
  · rintro ⟨n, above, hp⟩
    cases hp with
    | entry he hp => exact ⟨_, he, n, above, hp⟩
  · rintro ⟨member, hm, n, above, hp⟩
    exact ⟨n, above, .entry hm hp⟩

theorem larges_ne_nil_iff (doc : Json) : doc.larges ≠ [] ↔ doc.HoldsLarge := by
  induction doc using Json.induction with
  | large n above => exact iff_of_true (List.cons_ne_nil n []) ⟨n, above, .self _⟩
  | array items ih =>
    rw [larges, largesOfItems_eq_flatMap, holdsLarge_array, ne_eq, List.flatMap_eq_nil_iff]
    push Not
    exact exists_congr fun item => and_congr_right (ih item)
  | object entries ih =>
    rw [larges, largesOfEntries_eq_flatMap, holdsLarge_object, ne_eq, List.flatMap_eq_nil_iff]
    push Not
    exact exists_congr fun entry => and_congr_right (ih entry)
  | _ => exact iff_of_false (fun h => h rfl) (fun ⟨_, _, hp⟩ => nomatch hp)

end Json

theorem mapItems_eq_error_iff {α β ε : Type} {f : α → Except ε β} {faults : α → List ε}
    {items : List α} (h : ∀ item ∈ items, ∀ e, f item = .error e ↔ (faults item).head? = some e)
    {e : ε} : mapItems f items = .error e ↔ (items.flatMap faults).head? = some e := by
  induction items with
  | nil => simp [mapItems]
  | cons item rest ih =>
    have hitem := h item List.mem_cons_self
    have hrest := ih fun item hi => h item (List.mem_cons_of_mem _ hi)
    unfold mapItems
    rcases hf : f item with d | a
    · have hd : (faults item).head? = some d := (hitem d).1 hf
      simp [List.head?_append, hd]
    · have hnone : faults item = [] := by
        rw [← List.head?_eq_none_iff, Option.eq_none_iff_forall_ne_some]
        intro d hd
        cases hf.symm.trans ((hitem d).2 hd)
      rw [List.flatMap_cons, hnone, List.nil_append, ← hrest]
      rcases mapItems f rest with d | as <;> simp

namespace Value

open Json (larges HoldsLarge)

variable {doc : Json} {value : Value} {n : UInt64}

theorem ofJson_eq_error_iff (doc : Json) (n : UInt64) :
    ofJson doc = .error n ↔ doc.larges.head? = some n := by
  induction doc using Json.induction generalizing n with
  | large m above => simp [ofJson, larges]
  | array items ih =>
    rw [larges, Json.largesOfItems_eq_flatMap, ← mapItems_eq_error_iff ih,
      ← ofJsonItems_eq_mapItems, ofJson]
    rcases ofJsonItems items with m | values <;> simp
  | object entries ih =>
    have hentry (entry : String × Json) (he : entry ∈ entries) (m : UInt64) :
        (ofJson entry.2).map (fun value => (entry.1, value)) = .error m ↔
          entry.2.larges.head? = some m := by
      rw [← ih entry he]
      rcases ofJson entry.2 with d | value <;> simp [Except.map]
    rw [larges, Json.largesOfEntries_eq_flatMap, ← mapItems_eq_error_iff hentry,
      ← ofJsonEntries_eq_mapItems, ofJson]
    rcases ofJsonEntries entries with m | values <;> simp
  | _ => simp [ofJson, larges]

theorem exists_ofJson_eq_ok_iff : (∃ value, ofJson doc = .ok value) ↔ ¬doc.HoldsLarge := by
  rw [← Json.larges_ne_nil_iff, not_ne_iff, ← List.head?_eq_none_iff,
    Option.eq_none_iff_forall_ne_some]
  simp only [ne_eq, ← ofJson_eq_error_iff]
  rcases ofJson doc with n | value <;> simp

theorem toJson_of_ofJson (h : ofJson doc = .ok value) : value.toJson = doc := by
  induction doc using Json.induction generalizing value with
  | array items ih =>
    obtain ⟨values, rfl, hall⟩ := ofJson_array_eq_ok_iff.1 h
    have hitems : List.Forall₂ (fun item value => item = value.toJson) items values :=
      ((List.forall₂_and_left _ _).2 ⟨ih, hall⟩).imp fun _ _ h => (h.1 h.2).symm
    rw [← List.forall₂_map_right_iff, List.forall₂_eq_eq_eq] at hitems
    rw [toJson, toJsonItems_eq_map, ← hitems]
  | object entries ih =>
    obtain ⟨values, rfl, hall⟩ := ofJson_object_eq_ok_iff.1 h
    have hentries : List.Forall₂ (fun entry other => entry = (other.1, toJson other.2)) entries
        values :=
      ((List.forall₂_and_left _ _).2 ⟨ih, hall⟩).imp fun _ _ h =>
        Prod.ext h.2.1.symm (h.1 h.2.2).symm
    rw [← List.forall₂_map_right_iff, List.forall₂_eq_eq_eq] at hentries
    rw [toJson, toJsonEntries_eq_map, ← hentries]
  | large n above => cases h
  | real x finite =>
    cases h
    rw [toJson, dif_pos finite]
  | _ =>
    cases h
    rfl

mutual

/-- The value with null in the place of each real that is not finite. -/
def nullNonFinite : Value → Value
  | .array items => .array (nullNonFiniteItems items)
  | .map entries => .map (nullNonFiniteEntries entries)
  | .real x => if x.isFinite = true then .real x else .null
  | value => value

def nullNonFiniteItems : List Value → List Value
  | [] => []
  | item :: rest => nullNonFinite item :: nullNonFiniteItems rest

def nullNonFiniteEntries : List (String × Value) → List (String × Value)
  | [] => []
  | (key, value) :: rest => (key, nullNonFinite value) :: nullNonFiniteEntries rest

end

theorem nullNonFiniteItems_eq_map (items : List Value) :
    nullNonFiniteItems items = items.map nullNonFinite := by
  induction items with
  | nil => rfl
  | cons item rest ih => rw [nullNonFiniteItems, ih, List.map_cons]

theorem nullNonFiniteEntries_eq_map (entries : Entries Value) :
    nullNonFiniteEntries entries = entries.map fun entry => (entry.1, nullNonFinite entry.2) := by
  induction entries with
  | nil => rfl
  | cons entry rest ih => rw [nullNonFiniteEntries, ih, List.map_cons]

theorem ofJson_toJson_eq (value : Value) : ofJson value.toJson = .ok value.nullNonFinite := by
  induction value using Value.induction with
  | array items ih =>
    rw [toJson, toJsonItems_eq_map, nullNonFinite, nullNonFiniteItems_eq_map, ofJson_array_eq_ok_iff]
    refine ⟨_, rfl, List.forall₂_map_left_iff.2 (List.forall₂_map_right_iff.2 ?_)⟩
    exact List.forall₂_same.2 ih
  | map entries ih =>
    rw [toJson, toJsonEntries_eq_map, nullNonFinite, nullNonFiniteEntries_eq_map,
      ofJson_object_eq_ok_iff]
    refine ⟨_, rfl, List.forall₂_map_left_iff.2 (List.forall₂_map_right_iff.2 ?_)⟩
    exact List.forall₂_same.2 fun entry he => ⟨rfl, ih entry he⟩
  | real x =>
    rw [toJson, nullNonFinite]
    split <;> rfl
  | _ => rfl

end Value

namespace Json

def IsNumber : Json → Prop
  | .integer _ => True
  | .large _ _ => True
  | .real _ _ => True
  | _ => False

def signed? : Json → Option Int64
  | .integer n => some n
  | _ => none

def unsigned? : Json → Option UInt64
  | .integer n => if 0 ≤ n.toInt then some n.toUInt64 else none
  | .large n _ => some n
  | _ => none

def nearest? : Json → Option Binary64
  | .integer n => some ((Binary64.ofNat n.toInt.natAbs).withSign (n.toInt < 0))
  | .large n _ => some (Binary64.ofNat n.toNat)
  | .real x _ => some x
  | _ => none

end Json

namespace Value

inductive NumberFault where
  | tooLarge (n : UInt64)
  | unsupported

/-- The value of a number by what it is found to be first: a signed word, an unsigned one, a real. -/
def ofNumber (doc : Json) : Except NumberFault Value :=
  match doc.signed? with
  | some n => .ok (.integer n)
  | none =>
    match doc.unsigned? with
    | some n => .error (.tooLarge n)
    | none =>
      match doc.nearest? with
      | some x => .ok (.real x)
      | none => .error .unsupported

theorem ofNumber_eq {doc : Json} (h : doc.IsNumber) :
    ofNumber doc = (ofJson doc).mapError .tooLarge := by
  cases doc <;> first | rfl | exact h.elim

variable {doc : Json} {value : Value} {e : Error}

theorem load_eq_ok_iff : load doc = .ok value ↔ ofJson doc = .ok value := by
  unfold load
  rcases ofJson doc with n | found <;> simp

theorem load_eq_error_iff :
    load doc = .error e ↔ ∃ n, doc.larges.head? = some n ∧ e = .shape (.largeInteger n) := by
  simp only [← ofJson_eq_error_iff]
  unfold load
  rcases ofJson doc with n | found <;> simp [eq_comm]

theorem exists_load_eq_ok_iff : (∃ value, load doc = .ok value) ↔ ¬doc.HoldsLarge := by
  simp only [load_eq_ok_iff, exists_ofJson_eq_ok_iff]

/-- A document has a value unless it holds a whole number that no signed word does, of which the first is
reported; the document of its value is the document itself. Every value has a document, and the value of
that is the first one with null in the place of the reals that are not finite. Numbers are signed words,
unsigned ones or reals, so that none is left over. -/
theorem trees_correspond (doc : Json) (value : Value) :
    ((∃ e, load doc = .error e) ↔ doc.HoldsLarge) ∧
      (∀ e, load doc = .error e ↔
        ∃ n, doc.larges.head? = some n ∧ e = .shape (.largeInteger n)) ∧
      (∀ found, load doc = .ok found → found.toJson = doc) ∧
      load value.toJson = .ok value.nullNonFinite ∧
      (doc.IsNumber → ofNumber doc = (ofJson doc).mapError .tooLarge ∧
        ofNumber doc ≠ .error .unsupported) := by
  refine ⟨?_, fun e => load_eq_error_iff, fun found h => toJson_of_ofJson (load_eq_ok_iff.1 h),
    load_eq_ok_iff.2 (ofJson_toJson_eq value), fun h => ⟨ofNumber_eq h, ?_⟩⟩
  · rw [← not_iff_not, ← exists_load_eq_ok_iff]
    rcases load doc with e | found <;> simp
  · rw [ofNumber_eq h]
    rcases ofJson doc with n | found <;> simp [Except.mapError]

theorem trees_correspond_first :
    let one : Binary64 := ⟨0x3ff0000000000000⟩
    let minusZero : Binary64 := ⟨0x8000000000000000⟩
    let infinity : Binary64 := ⟨0x7ff0000000000000⟩
    let kept : Json := .object
      [("b", .array [.integer 1, .real one (by decide), .real minusZero (by decide)]), ("a", .null)]
    let large : Json := .large 18446744073709551615 (by decide)
    let broken : Json := .array [.integer (-1), .object
      [("z", .array [large]), ("a", .large 9223372036854775808 (by decide))]]
    let odd : Value := .map [("x", .array [.real infinity, .integer 1])]
    (∃ found, load kept = .ok found ∧ found.toJson = kept) ∧
      broken.HoldsLarge ∧
      load broken = .error (.shape (.largeInteger 18446744073709551615)) ∧
      load odd.toJson = .ok (.map [("x", .array [.null, .integer 1])]) ∧
      large.IsNumber ∧ ofNumber large = .error (.tooLarge 18446744073709551615) := by
  intro one minusZero infinity kept large broken odd
  obtain ⟨-, -, hkept, -, -⟩ := trees_correspond kept odd
  obtain ⟨hfails, hfirst, -, hodd, -⟩ := trees_correspond broken odd
  obtain ⟨-, -, -, -, hnumber⟩ := trees_correspond large odd
  have hbroken := (hfirst _).2 ⟨_, rfl, rfl⟩
  exact ⟨⟨_, rfl, hkept _ rfl⟩, hfails.1 ⟨_, hbroken⟩, hbroken, hodd, trivial, (hnumber trivial).1⟩

end Value
end ClaimRules
