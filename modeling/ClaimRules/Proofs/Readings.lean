import ClaimRules.Proofs.Parts

/-! How documents are read. A reading is two relations: what is read from a document, and why nothing is
read from one that is refused. A way of loading is described by a reading if it finds exactly what the two
relations say; readings of lists, of forms and of parts that may be missing are made of smaller ones. -/

namespace ClaimRules

variable {α β δ : Type}

theorem mapItems_eq_error_iff_first {ε : Type} {f : α → Except ε β} {items : List α} {e : ε} :
    mapItems f items = .error e ↔ ∃ before item after, items = before ++ item :: after ∧
      (∀ item ∈ before, ∃ b, f item = .ok b) ∧ f item = .error e := by
  refine ⟨fun h => ?_, fun ⟨before, item, after, hitems, hb, he⟩ => hitems ▸ mapItems_of_error hb he⟩
  induction items with
  | nil => cases h
  | cons item rest ih =>
    rcases hf : f item with d | b
    · simp only [mapItems, hf, Except.error.injEq] at h
      exact ⟨[], item, rest, rfl, by simp, h ▸ hf⟩
    · rcases hr : mapItems f rest with d | bs
      · simp only [mapItems, hf, hr, Except.error.injEq] at h
        obtain ⟨before, found, after, rfl, hb, he⟩ := ih (h ▸ hr)
        exact ⟨item :: before, found, after, rfl, List.forall_mem_cons.2 ⟨⟨b, hf⟩, hb⟩, he⟩
      · simp only [mapItems, hf, hr] at h
        cases h

structure Json.Form (δ : Type) where
  make : δ → Json
  content? : Json → Option δ
  content?_eq_some_iff : ∀ {doc content}, content? doc = some content ↔ doc = make content

namespace Json.Form

def text : Form String where
  make := .string
  content? doc := match doc with
    | .string text => some text
    | _ => none
  content?_eq_some_iff {doc text} := by cases doc <;> simp

def array : Form (List Json) where
  make := .array
  content? doc := match doc with
    | .array items => some items
    | _ => none
  content?_eq_some_iff {doc items} := by cases doc <;> simp

def object : Form (Entries Json) where
  make := .object
  content? doc := match doc with
    | .object entries => some entries
    | _ => none
  content?_eq_some_iff {doc entries} := by cases doc <;> simp

def load (form : Form δ) (wrong : Json → ShapeFault) (loadContent : δ → Except Error α)
    (doc : Json) : Except Error α :=
  match form.content? doc with
  | some content => loadContent content
  | none => .error (.shape (wrong doc))

end Json.Form

/-- What is read, and why nothing is read from what is refused. -/
structure Reading (δ α : Type) where
  Reads : δ → α → Prop
  Refuses : δ → Error → Prop

namespace Reading

open Json (Form)

def Accepts (r : Reading δ α) (doc : δ) : Prop := ∃ a, r.Reads doc a

/-- What is loaded is what is read, and what is reported is why nothing is. -/
structure Describes (r : Reading δ α) (load : δ → Except Error α) : Prop where
  ok_iff : ∀ doc a, load doc = .ok a ↔ r.Reads doc a
  error_iff : ∀ doc e, load doc = .error e ↔ r.Refuses doc e

def verbatim : Reading α α where
  Reads doc a := doc = a
  Refuses _ _ := False

/-- Items in order. The first that is refused tells why, and may tell its position. -/
def items (r : Reading δ α) (tell : Nat → Error → Error) : Reading (List δ) (List α) where
  Reads := List.Forall₂ r.Reads
  Refuses docs e := ∃ before doc after cause, docs = before ++ doc :: after ∧
    (∀ doc ∈ before, r.Accepts doc) ∧ r.Refuses doc cause ∧ e = tell before.length cause

def inForm (r : Reading δ α) (form : Form δ) (wrong : Json → ShapeFault) : Reading Json α where
  Reads doc a := ∃ content, doc = form.make content ∧ r.Reads content a
  Refuses doc e := (∃ content, doc = form.make content ∧ r.Refuses content e) ∨
    (∀ content, doc ≠ form.make content) ∧ e = .shape (wrong doc)

def as (r : Reading δ α) (make : α → β) : Reading δ β where
  Reads doc b := ∃ a, r.Reads doc a ∧ make a = b
  Refuses := r.Refuses

def optional (r : Reading δ α) : Reading (Option δ) (Option α) where
  Reads := Option.Rel r.Reads
  Refuses part e := ∃ doc, part = some doc ∧ r.Refuses doc e

variable {r : Reading δ α}

section Accepts

theorem accepts_items {tell : Nat → Error → Error} {docs : List δ} :
    (r.items tell).Accepts docs ↔ ∀ doc ∈ docs, r.Accepts doc := by
  constructor
  · rintro ⟨out, h⟩ doc hd
    obtain ⟨a, -, ha⟩ := exists_mem_of_forall₂ h.flip hd
    exact ⟨a, ha⟩
  · intro h
    induction docs with
    | nil => exact ⟨[], .nil⟩
    | cons doc rest ih =>
      obtain ⟨⟨a, ha⟩, hrest⟩ := List.forall_mem_cons.1 h
      obtain ⟨out, hout⟩ := ih hrest
      exact ⟨a :: out, .cons ha hout⟩

theorem accepts_inForm {form : Form δ} {wrong : Json → ShapeFault} {doc : Json} :
    (r.inForm form wrong).Accepts doc ↔ ∃ content, doc = form.make content ∧ r.Accepts content := by
  simp only [Accepts, inForm, ← exists_and_left]
  exact exists_comm

theorem accepts_as {make : α → β} {doc : δ} : (r.as make).Accepts doc ↔ r.Accepts doc :=
  ⟨fun ⟨_, a, ha, _⟩ => ⟨a, ha⟩, fun ⟨a, ha⟩ => ⟨make a, a, ha, rfl⟩⟩

theorem accepts_optional {part : Option δ} :
    r.optional.Accepts part ↔ ∀ doc, part = some doc → r.Accepts doc := by
  constructor
  · rintro ⟨_, h⟩ doc rfl
    cases h with
    | some h => exact ⟨_, h⟩
  · intro h
    rcases part with _ | doc
    · exact ⟨none, .none⟩
    · obtain ⟨a, ha⟩ := h doc rfl
      exact ⟨some a, .some ha⟩

end Accepts

namespace Describes

variable {load : δ → Except Error α}

theorem accepts_iff (h : r.Describes load) {doc : δ} : r.Accepts doc ↔ ∃ a, load doc = .ok a :=
  exists_congr fun a => (h.ok_iff doc a).symm

theorem verbatim : (verbatim : Reading α α).Describes .ok where
  ok_iff _ _ := by rw [Except.ok.injEq, Reading.verbatim]
  error_iff _ _ := iff_of_false nofun id

theorem items (h : r.Describes load) : (r.items fun _ cause => cause).Describes (mapItems load) where
  ok_iff docs out := by
    simp only [mapItems_eq_ok_iff, h.ok_iff]
    exact Iff.rfl
  error_iff docs e := by
    simp only [mapItems_eq_error_iff_first, ← h.accepts_iff, h.error_iff]
    simp [Reading.items]

theorem itemsAt (h : r.Describes load) (tell : Nat → Error → Error) :
    (r.items tell).Describes fun docs =>
      mapItems (fun item => (load item.1).mapError (tell item.2)) docs.zipIdx where
  ok_iff docs out := by
    have hload (item : δ × Nat) (a : α) :
        (load item.1).mapError (tell item.2) = .ok a ↔ r.Reads item.1 a := by
      rw [← h.ok_iff]
      rcases load item.1 with e | found <;> simp [Except.mapError]
    simp only [mapItems_eq_ok_iff, hload]
    rw [← List.forall₂_map_left_iff, List.zipIdx_map_fst]
    exact Iff.rfl
  error_iff docs e := by
    have hok (item : δ × Nat) :
        (∃ a, (load item.1).mapError (tell item.2) = .ok a) ↔ r.Accepts item.1 := by
      rw [h.accepts_iff]
      rcases load item.1 with e | found <;> simp [Except.mapError]
    have herror (item : δ × Nat) : (load item.1).mapError (tell item.2) = .error e ↔
        ∃ cause, r.Refuses item.1 cause ∧ e = tell item.2 cause := by
      simp only [← h.error_iff]
      rcases load item.1 with e | found <;> simp [Except.mapError, eq_comm]
    have hfront (front : List δ) :
        (∀ item ∈ front.zipIdx, r.Accepts item.1) ↔ ∀ doc ∈ front, r.Accepts doc := by
      rw [← List.forall_mem_map (f := Prod.fst), List.zipIdx_map_fst]
    simp only [mapItems_eq_error_iff_first, hok, herror]
    constructor
    · rintro ⟨before, item, after, hdocs, hb, cause, hcause, he⟩
      obtain ⟨front, back, rfl, rfl, hback⟩ := List.zipIdx_eq_append_iff.1 hdocs
      obtain ⟨doc, rest, rfl, rfl, -⟩ := List.zipIdx_eq_cons_iff.1 hback.symm
      exact ⟨front, doc, rest, cause, rfl, (hfront front).1 hb, hcause, by simpa using he⟩
    · rintro ⟨front, doc, rest, cause, rfl, hf, hcause, he⟩
      refine ⟨front.zipIdx, (doc, front.length), rest.zipIdx (front.length + 1), ?_,
        (hfront front).2 hf, cause, hcause, he⟩
      rw [List.zipIdx_append, List.zipIdx_cons, Nat.zero_add]

theorem inForm (h : r.Describes load) (form : Form δ) (wrong : Json → ShapeFault) :
    (r.inForm form wrong).Describes (form.load wrong load) where
  ok_iff doc a := by
    simp only [Reading.inForm, Form.load, ← form.content?_eq_some_iff, ← h.ok_iff]
    rcases form.content? doc with _ | content <;> simp
  error_iff doc e := by
    simp only [Reading.inForm, Form.load, ne_eq, ← form.content?_eq_some_iff, ← h.error_iff]
    rcases form.content? doc with _ | content <;> simp [eq_comm]

theorem as (h : r.Describes load) (make : α → β) :
    (r.as make).Describes fun doc => (load doc).map make where
  ok_iff doc b := by
    simp only [Reading.as, ← h.ok_iff]
    rcases load doc with e | a <;> simp [Except.map]
  error_iff doc e := by
    simp only [Reading.as, ← h.error_iff]
    rcases load doc with e | a <;> simp [Except.map]

theorem optional (h : r.Describes load) {loadPart : Option δ → Except Error (Option α)}
    (hnone : loadPart none = .ok none) (hsome : ∀ doc, loadPart (some doc) = (load doc).map some) :
    r.optional.Describes loadPart where
  ok_iff part found := by
    rcases part with _ | doc
    · rw [hnone]
      rcases found with _ | a <;> simp [Reading.optional]
    · rw [hsome]
      rcases found with _ | a <;> rcases hl : load doc with e | b <;>
        simp [Reading.optional, Except.map, ← h.ok_iff, hl]
  error_iff part e := by
    rcases part with _ | doc
    · simp [hnone, Reading.optional]
    · rw [hsome]
      rcases hl : load doc with d | b <;> simp [Reading.optional, Except.map, ← h.error_iff, hl]

theorem bind_eq_error_iff (h : r.Describes load) {f : α → Except Error β} {fails : Prop} {doc : δ}
    {e : Error} (hf : ∀ a, f a = .error e ↔ fails) :
    (load doc >>= f) = .error e ↔ r.Refuses doc e ∨ r.Accepts doc ∧ fails := by
  rw [← h.error_iff, h.accepts_iff]
  rcases load doc with d | a <;> simp [bind, Except.bind, hf]

end Describes
end Reading
end ClaimRules
