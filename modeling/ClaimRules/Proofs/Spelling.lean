import ClaimRules.Json.Reader
import ClaimRules.Proofs.Result
import Mathlib.Data.List.Induction

/-! How texts spell documents. A spelling keeps what the document does not: all the members of an object
in the order in which they are written, also those whose key occurs again. -/

namespace ClaimRules

namespace Entries

variable {α : Type}

theorem ofPairs_append_singleton (pairs : List (String × α)) (pair : String × α) :
    ofPairs (pairs ++ [pair]) = insert pair.1 pair.2 (ofPairs pairs) := by
  unfold ofPairs
  rw [List.foldl_append]
  rfl

theorem keys_ofPairs (pairs : List (String × α)) :
    keys (ofPairs pairs) = (pairs.map Prod.fst).eraseDups := by
  induction pairs using List.reverseRecOn with
  | nil => rfl
  | append_singleton pairs pair ih =>
    rw [ofPairs_append_singleton, keys_insert, ih, List.map_append, List.eraseDups_append]
    by_cases h : pair.1 ∈ pairs.map Prod.fst
    · simp [List.mem_eraseDups, h, List.removeAll]
    · simp [List.mem_eraseDups, h, List.removeAll, List.eraseDups_cons]

theorem get?_ofPairs (pairs : List (String × α)) (key : String) :
    get? (ofPairs pairs) key = get? pairs.reverse key := by
  induction pairs using List.reverseRecOn with
  | nil => rfl
  | append_singleton pairs pair ih =>
    rw [ofPairs_append_singleton, List.reverse_append, List.reverse_singleton,
      List.singleton_append]
    by_cases h : pair.1 = key
    · rw [← h, get?_insert_self]
      simp [get?]
    · rw [get?_insert_of_ne (fun e => h e.symm), ih]
      simp [get?, h]

end Entries

namespace Json

section Grammar

variable {α : Type}

inductive Listed (close : Char) (Element : α → List Char → List Char → Prop) :
    List α → List Char → List Char → Prop where
  | last {a : α} {text mid rest : List Char} (first : Element a (skipBlanks text) mid)
      (closed : skipBlanks mid = close :: rest) : Listed close Element [a] text rest
  | cons {a : α} {others : List α} {text mid more rest : List Char}
      (first : Element a (skipBlanks text) mid) (comma : skipBlanks mid = ',' :: more)
      (listed : Listed close Element others more rest) :
      Listed close Element (a :: others) text rest

inductive Bracketed (close : Char) (Element : α → List Char → List Char → Prop) :
    List α → List Char → List Char → Prop where
  | empty {text rest : List Char} (closed : skipBlanks text = close :: rest) :
      Bracketed close Element [] text rest
  | elements {items : List α} {text rest : List Char}
      (listed : Listed close Element items (skipBlanks text) rest) :
      Bracketed close Element items text rest

inductive Member (Element : α → List Char → List Char → Prop) :
    String × α → List Char → List Char → Prop where
  | mk {a : α} {key text mid more rest : List Char} (quoted : readChars text = .ok (key, mid))
      (colon : skipBlanks mid = ':' :: more) (value : Element a (skipBlanks more) rest) :
      Member Element (String.ofList key, a) ('"' :: text) rest

variable {Element : α → List Char → List Char → Prop} {close : Char} {items others : List α}
  {text rest left : List Char}

/-- An element is the only one at its place, and leaves one rest. -/
structure Determined (Element : α → List Char → List Char → Prop) (a : α) : Prop where
  unique : ∀ {b text rest left}, Element a text rest → Element b text left → a = b ∧ rest = left

theorem Listed.determined (hc : close ≠ ',') (he : ∀ a ∈ items, Determined Element a)
    (h : Listed close Element items text rest) (ho : Listed close Element others text left) :
    items = others ∧ rest = left := by
  -- along the first list: what follows an element tells whether the second one ends there too
  induction h generalizing others with
  | last hfirst hclosed =>
    cases ho with
    | last hfirst' hclosed' =>
      obtain ⟨rfl, rfl⟩ := (he _ List.mem_cons_self).unique hfirst hfirst'
      rw [hclosed] at hclosed'
      cases hclosed'
      exact ⟨rfl, rfl⟩
    | cons hfirst' hcomma' _ =>
      obtain ⟨rfl, rfl⟩ := (he _ List.mem_cons_self).unique hfirst hfirst'
      rw [hclosed] at hcomma'
      cases hcomma'
      exact absurd rfl hc
  | cons hfirst hcomma _ ih =>
    cases ho with
    | last hfirst' hclosed' =>
      obtain ⟨rfl, rfl⟩ := (he _ List.mem_cons_self).unique hfirst hfirst'
      rw [hcomma] at hclosed'
      cases hclosed'
      exact absurd rfl hc
    | cons hfirst' hcomma' hlisted' =>
      obtain ⟨rfl, rfl⟩ := (he _ List.mem_cons_self).unique hfirst hfirst'
      rw [hcomma] at hcomma'
      cases hcomma'
      obtain ⟨rfl, rfl⟩ := ih (fun a ha => he a (List.mem_cons_of_mem _ ha)) hlisted'
      exact ⟨rfl, rfl⟩

theorem Bracketed.determined (hb : isBlank close = false) (hc : close ≠ ',')
    (hclose : ∀ a more left, ¬Element a (close :: more) left)
    (he : ∀ a ∈ items, Determined Element a) (h : Bracketed close Element items text rest)
    (ho : Bracketed close Element others text left) : items = others ∧ rest = left := by
  -- what is closed at once has no elements
  have hempty {items : List α} {more rest : List Char} (ht : skipBlanks text = close :: more) :
      ¬Listed close Element items (skipBlanks text) rest := by
    have hs : skipBlanks (skipBlanks text) = close :: more := by
      rw [ht, skipBlanks, List.dropWhile_cons_of_neg (by rw [hb]; decide)]
    rintro (⟨hfirst, -⟩ | ⟨hfirst, -, -⟩) <;> exact hclose _ _ _ (hs ▸ hfirst)
  cases h with
  | empty hclosed =>
    cases ho with
    | empty hclosed' =>
      rw [hclosed] at hclosed'
      cases hclosed'
      exact ⟨rfl, rfl⟩
    | elements hlisted' => exact absurd hlisted' (hempty hclosed)
  | elements hlisted =>
    cases ho with
    | empty hclosed' => exact absurd hlisted (hempty hclosed')
    | elements hlisted' => exact hlisted.determined hc he hlisted'

theorem Member.determined {member : String × α} (he : Determined Element member.2) :
    Determined (Member Element) member := by
  refine ⟨fun h ho => ?_⟩
  cases h with
  | mk hquoted hcolon hvalue =>
    cases ho with
    | mk hquoted' hcolon' hvalue' =>
      rw [hquoted] at hquoted'
      cases hquoted'
      rw [hcolon] at hcolon'
      cases hcolon'
      obtain ⟨rfl, rfl⟩ := he.unique hvalue hvalue'
      exact ⟨rfl, rfl⟩

end Grammar

inductive Spelling where
  | scalar (doc : Json) (flat : doc.depth = 0)
  | array (items : List Spelling)
  | object (members : List (String × Spelling))

namespace Spelling

mutual

def doc : Spelling → Json
  | .scalar doc _ => doc
  | .array items => .array (docs items)
  | .object members => .object (Entries.ofPairs (memberDocs members))

def docs : List Spelling → List Json
  | [] => []
  | item :: rest => doc item :: docs rest

def memberDocs : List (String × Spelling) → List (String × Json)
  | [] => []
  | (key, value) :: rest => (key, doc value) :: memberDocs rest

end

theorem docs_eq_map (items : List Spelling) : docs items = items.map doc := by
  induction items with
  | nil => rfl
  | cons item rest ih => rw [docs, ih, List.map_cons]

theorem memberDocs_eq_map (members : List (String × Spelling)) :
    memberDocs members = members.map (fun member => (member.1, member.2.doc)) := by
  induction members with
  | nil => rfl
  | cons member rest ih => rw [memberDocs, ih, List.map_cons]

theorem doc_eq_array_iff {spelling : Spelling} {docs : List Json} :
    spelling.doc = .array docs ↔ ∃ items, spelling = .array items ∧ items.map doc = docs := by
  constructor
  · intro h
    cases spelling with
    | scalar doc flat =>
      change doc = _ at h
      subst h
      cases flat
    | array items =>
      cases h
      exact ⟨items, rfl, (docs_eq_map items).symm⟩
    | object members => cases h
  · rintro ⟨items, rfl, rfl⟩
    rw [doc, docs_eq_map]

theorem doc_eq_object_iff {spelling : Spelling} {entries : Entries Json} :
    spelling.doc = .object entries ↔ ∃ members, spelling = .object members ∧
      Entries.ofPairs (members.map fun member => (member.1, member.2.doc)) = entries := by
  constructor
  · intro h
    cases spelling with
    | scalar doc flat =>
      change doc = _ at h
      subst h
      cases flat
    | array items => cases h
    | object members =>
      cases h
      exact ⟨members, rfl, by rw [memberDocs_eq_map]⟩
  · rintro ⟨members, rfl, rfl⟩
    rw [doc, memberDocs_eq_map]

/-- The spelling stands at the front of the text, and the rest is left. -/
inductive Begins : Spelling → List Char → List Char → Prop where
  | scalar {doc : Json} {flat : doc.depth = 0} {text rest : List Char}
      (read : readValue 0 text = .ok (doc, rest)) : Begins (.scalar doc flat) text rest
  | array {items : List Spelling} {text rest : List Char}
      (bracketed : Bracketed ']' Begins items text rest) : Begins (.array items) ('[' :: text) rest
  | object {members : List (String × Spelling)} {text rest : List Char}
      (bracketed : Bracketed '\x7d' (Member Begins) members text rest) :
      Begins (.object members) ('\x7b' :: text) rest

theorem not_begins_bracket {spelling : Spelling} {more rest : List Char} :
    ¬spelling.Begins (']' :: more) rest := by
  intro h
  cases h with
  | scalar hread => cases hread

theorem determined (spelling : Spelling) : Determined Begins spelling := by
  match spelling with
  | .scalar doc _ =>
    refine ⟨fun h ho => ?_⟩
    cases h with
    | scalar hread =>
      cases ho with
      | scalar hread' =>
        rw [hread] at hread'
        cases hread'
        exact ⟨rfl, rfl⟩
      | array => cases hread
      | object => cases hread
  | .array items =>
    have hi : ∀ item ∈ items, Determined Begins item := fun item _ => item.determined
    refine ⟨fun h ho => ?_⟩
    cases h with
    | array hb =>
      cases ho with
      | scalar hread' => cases hread'
      | array hb' =>
        obtain ⟨rfl, rfl⟩ :=
          hb.determined rfl (by decide) (fun _ _ _ => not_begins_bracket) hi hb'
        exact ⟨rfl, rfl⟩
  | .object members =>
    have hm : ∀ member ∈ members, Determined (Member Begins) member :=
      fun member _ => Member.determined member.2.determined
    refine ⟨fun h ho => ?_⟩
    cases h with
    | object hb =>
      cases ho with
      | scalar hread' => cases hread'
      | object hb' =>
        obtain ⟨rfl, rfl⟩ := hb.determined rfl (by decide) (fun _ _ _ hs => by cases hs) hm hb'
        exact ⟨rfl, rfl⟩
termination_by spelling
decreasing_by
  · decreasing_tactic
  · next hmem =>
    have hlt := List.sizeOf_lt_of_mem hmem
    rcases member with ⟨key, value⟩
    simp only [Prod.mk.sizeOf_spec, object.sizeOf_spec] at hlt ⊢
    omega

def Spans (spelling : Spelling) (text : String) : Prop :=
  ∃ rest, spelling.Begins (skipBlanks text.toList) rest ∧ skipBlanks rest = []

theorem Spans.unique {spelling other : Spelling} {text : String} (h : spelling.Spans text)
    (ho : other.Spans text) : spelling = other := by
  obtain ⟨rest, hb, -⟩ := h
  obtain ⟨left, hb', -⟩ := ho
  exact (spelling.determined.unique hb hb').1

theorem Spans.iff_eq {spelling other : Spelling} {text : String} (h : spelling.Spans text) :
    other.Spans text ↔ other = spelling :=
  ⟨fun ho => ho.unique h, fun e => e ▸ h⟩

end Spelling

section Readers

variable {α β : Type} {close : Char} {element : Reader α}
  {Element : β → List Char → List Char → Prop} {f : β → α}

theorem listed_of_readElements
    (he : ∀ {text a rest}, element text = .ok (a, rest) → ∃ b, Element b text rest ∧ f b = a)
    {fuel : Nat} {text rest : List Char} {items : List α}
    (h : readElements close element fuel text = .ok (items, rest)) :
    ∃ spelled, Listed close Element spelled text rest ∧ spelled.map f = items := by
  induction fuel generalizing text items with
  | zero => cases h
  | succ fuel ih =>
    unfold readElements at h
    obtain ⟨⟨first, mid⟩, hfirst, h⟩ := bind_eq_ok_iff.1 h
    obtain ⟨b, hb, rfl⟩ := he hfirst
    rcases hm : skipBlanks mid with _ | ⟨c, more⟩
    · simp [hm] at h
    simp only [hm] at h
    split at h
    · next hc =>
      cases h
      exact ⟨[b], .last hb (hc ▸ hm), rfl⟩
    · split at h
      · next hc =>
        obtain ⟨⟨others, left⟩, hothers, h⟩ := bind_eq_ok_iff.1 h
        cases h
        obtain ⟨spelled, hlisted, rfl⟩ := ih hothers
        exact ⟨b :: spelled, .cons hb (hc ▸ hm) hlisted, rfl⟩
      · cases h

theorem bracketed_of_readList
    (he : ∀ {text a rest}, element text = .ok (a, rest) → ∃ b, Element b text rest ∧ f b = a)
    {text rest : List Char} {items : List α} (h : readList close element text = .ok (items, rest)) :
    ∃ spelled, Bracketed close Element spelled text rest ∧ spelled.map f = items := by
  unfold readList at h
  rcases ht : skipBlanks text with _ | ⟨c, more⟩
  · simp [ht] at h
  simp only [ht] at h
  split at h
  · next hc =>
    cases h
    exact ⟨[], .empty (hc ▸ ht), rfl⟩
  · obtain ⟨spelled, hlisted, hmap⟩ := listed_of_readElements he h
    exact ⟨spelled, .elements (ht ▸ hlisted), hmap⟩

theorem member_of_readEntry {value : Reader Json} {g : β → Json}
    (he : ∀ {text doc rest}, value text = .ok (doc, rest) → ∃ b, Element b text rest ∧ g b = doc)
    {text rest : List Char} {entry : String × Json} (h : readEntry value text = .ok (entry, rest)) :
    ∃ b, Member Element b text rest ∧ (b.1, g b.2) = entry := by
  unfold readEntry at h
  split at h
  · obtain ⟨⟨key, mid⟩, hkey, h⟩ := bind_eq_ok_iff.1 h
    dsimp only at h
    split at h
    · next more hm =>
      obtain ⟨⟨doc, left⟩, hvalue, h⟩ := bind_eq_ok_iff.1 h
      cases h
      obtain ⟨b, hb, rfl⟩ := he hvalue
      exact ⟨(String.ofList key, b), .mk hkey hm hb, rfl⟩
    · cases h
  · cases h

end Readers

theorem depth_of_real? {x : Binary64} {doc : Json} (h : real? x = .ok doc) : doc.depth = 0 := by
  unfold real? at h
  split at h
  · cases h
    rfl
  · cases h

theorem Numeral.depth_of_value {numeral : Numeral} {doc : Json} (h : numeral.value = .ok doc) :
    doc.depth = 0 := by
  unfold value at h
  extract_lets whole at h
  split at h
  · cases h
    rfl
  split at h
  · cases h
    rfl
  split at h
  · cases h
    rfl
  · exact depth_of_real? h

theorem depth_of_readNumber {text rest : List Char} {doc : Json}
    (h : readNumber text = .ok (doc, rest)) : doc.depth = 0 := by
  obtain ⟨⟨numeral, mid⟩, -, h⟩ := bind_eq_ok_iff.1 h
  obtain ⟨value, hvalue, h⟩ := bind_eq_ok_iff.1 h
  cases h
  exact Numeral.depth_of_value hvalue

theorem depth_of_readWord {word text rest : List Char} {value doc : Json} (hv : value.depth = 0)
    (h : readWord word value text = .ok (doc, rest)) : doc.depth = 0 := by
  unfold readWord at h
  split at h
  · cases h
    exact hv
  · cases h

theorem depth_of_readValue_zero {text rest : List Char} {doc : Json}
    (h : readValue 0 text = .ok (doc, rest)) : doc.depth = 0 := by
  rcases text with _ | ⟨c, text⟩
  · cases h
  unfold readValue at h
  dsimp only at h
  split at h
  · obtain ⟨⟨chars, mid⟩, -, h⟩ := bind_eq_ok_iff.1 h
    cases h
    rfl
  split at h
  · cases h
  split at h
  · cases h
  split at h
  · exact depth_of_readNumber h
  split at h
  · exact depth_of_readWord rfl h
  split at h
  · exact depth_of_readWord rfl h
  · exact depth_of_readWord rfl h

theorem readValue_zero {levels : Nat} {c : Char} {text : List Char} (ha : c ≠ '[')
    (ho : c ≠ '\x7b') : readValue levels (c :: text) = readValue 0 (c :: text) := by
  cases levels <;> simp [readValue, ha, ho]

theorem begins_of_readValue {levels : Nat} {text rest : List Char} {doc : Json}
    (h : readValue levels text = .ok (doc, rest)) :
    ∃ spelling : Spelling, spelling.Begins text rest ∧ spelling.doc = doc := by
  -- on the levels: arrays and objects are read with one less for what stands in them
  induction levels generalizing text rest doc with
  | zero => exact ⟨.scalar doc (depth_of_readValue_zero h), .scalar h, rfl⟩
  | succ levels ih =>
    rcases text with _ | ⟨c, text⟩
    · cases h
    by_cases ha : c = '['
    · subst ha
      obtain ⟨⟨items, left⟩, hread, h⟩ := bind_eq_ok_iff.1 h
      cases h
      obtain ⟨spelled, hb, rfl⟩ := bracketed_of_readList ih hread
      exact ⟨.array spelled, .array hb, by rw [Spelling.doc, Spelling.docs_eq_map]⟩
    by_cases ho : c = '\x7b'
    · subst ho
      obtain ⟨⟨entries, left⟩, hread, h⟩ := bind_eq_ok_iff.1 h
      cases h
      obtain ⟨spelled, hb, rfl⟩ := bracketed_of_readList (member_of_readEntry ih) hread
      exact ⟨.object spelled, .object hb, by rw [Spelling.doc, Spelling.memberDocs_eq_map]⟩
    rw [readValue_zero ha ho] at h
    exact ⟨.scalar doc (depth_of_readValue_zero h), .scalar h, rfl⟩

theorem exists_spans_of_parse {text : String} {doc : Json} (h : parse text = .ok doc) :
    ∃ spelling : Spelling, spelling.Spans text ∧ spelling.doc = doc := by
  unfold parse at h
  obtain ⟨⟨read, rest⟩, hread, h⟩ := bind_eq_ok_iff.1 h
  dsimp only at h
  split at h
  · next hrest =>
    cases h
    obtain ⟨spelling, hb, hd⟩ := begins_of_readValue hread
    exact ⟨spelling, ⟨rest, hb, hrest⟩, hd⟩
  · cases h

end Json
end ClaimRules
