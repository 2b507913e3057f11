import ClaimRules.Reference.Basic
import Mathlib.Data.List.TakeWhile

/-! The written forms of references. A reader of references is right if it reads each form, as far as
it goes, and nothing else. -/

namespace ClaimRules
namespace Reference

structure IsName (chars : List Char) : Prop where
  first : ∃ c ∈ chars.head?, c.isAlpha = true
  all : ∀ c ∈ chars, isNameChar c = true

structure IsIndex (chars : List Char) : Prop where
  nonempty : chars ≠ []
  all : ∀ c ∈ chars, isNameChar c = true

structure Writable (r : Reference) : Prop where
  name : IsName r.name.toList
  index : ∀ index ∈ r.index, IsIndex index.toList

def brace (present : Bool) (c : Char) : List Char := if present then [c] else []

def bracketed : Option String → List Char
  | none => []
  | some index => '[' :: (index.toList ++ [']'])

/-- What is written after the dollar sign: name and index, with or without a brace on either side. -/
def body (r : Reference) (opened closed : Bool) : List Char :=
  brace opened '\x7b' ++ r.name.toList ++ bracketed r.index ++ brace closed '\x7d'

def written (r : Reference) (opened closed : Bool) : List Char := '$' :: r.body opened closed

def LacksIndex (text : List Char) : Prop :=
  ∀ index rest, IsIndex index → text ≠ '[' :: (index ++ ']' :: rest)

/-- A reference stands at the front of a text and takes as much of it as it can: the whole run of
characters of a name, an index that follows it, and a brace that follows these. -/
structure Stands (r : Reference) (opened closed : Bool) (text after : List Char) : Prop where
  text_eq : text = r.written opened closed ++ after
  writable : r.Writable
  name_ends : ∀ c ∈ (bracketed r.index ++ brace closed '\x7d' ++ after).head?, isNameChar c = false
  index_taken : r.index = none → LacksIndex (brace closed '\x7d' ++ after)
  brace_taken : closed = false → after.head? ≠ some '\x7d'

section Runs

variable {p : Char → Bool} {run rest : List Char}

theorem takeWhile_run (h : ∀ c ∈ run, p c = true) (hr : ∀ c ∈ rest.head?, p c = false) :
    (run ++ rest).takeWhile p = run := by
  have hrest : rest.takeWhile p = [] := by
    cases rest with
    | nil => rfl
    | cons c rest => simp [hr c rfl]
  rw [List.takeWhile_append_of_pos h, hrest, List.append_nil]

theorem dropWhile_run (h : ∀ c ∈ run, p c = true) (hr : ∀ c ∈ rest.head?, p c = false) :
    (run ++ rest).dropWhile p = rest := by
  rw [List.dropWhile_append_of_pos h]
  cases rest with
  | nil => rfl
  | cons c rest => simp [hr c rfl]

theorem count_run {c : Char} (h : ∀ d ∈ run, p d = true) (hc : p c = false) : run.count c = 0 := by
  rw [List.count_eq_zero]
  intro hmem
  cases (h c hmem).symm.trans hc

theorem head?_dropWhile (p : Char → Bool) (text : List Char) :
    ∀ c ∈ (text.dropWhile p).head?, p c = false := by
  intro c hc
  have h := List.head?_dropWhile_not p text
  rw [Option.mem_def.1 hc] at h
  exact h

end Runs

section Parts

variable {text after : List Char} {c : Char}

theorem isNameChar_of_isAlpha (h : c.isAlpha = true) : isNameChar c = true := by
  simp [isNameChar, Char.isAlphanum, h]

theorem readIndex_bracketed {index : String} (h : IsIndex index.toList) :
    readIndex (bracketed (some index) ++ after) = (some index, after) := by
  have htake : (index.toList ++ ']' :: after).takeWhile isNameChar = index.toList :=
    takeWhile_run h.all (by rintro _ ⟨⟩; rfl)
  have hdrop : (index.toList ++ ']' :: after).dropWhile isNameChar = ']' :: after :=
    dropWhile_run h.all (by rintro _ ⟨⟩; rfl)
  have htext : bracketed (some index) ++ after = '[' :: (index.toList ++ ']' :: after) := by
    simp [bracketed]
  rw [htext]
  simp only [readIndex, htake, hdrop]
  split
  · next hnil => exact absurd hnil h.nonempty
  · next heq _ =>
    cases heq
    rw [String.ofList_toList]
  · next hne => exact (hne _ rfl).elim

theorem readIndex_of_lacksIndex (h : LacksIndex text) : readIndex text = (none, text) := by
  unfold readIndex
  split
  · next rest =>
    split
    · rfl
    · next index after hafter hne =>
      have hindex : IsIndex (rest.takeWhile isNameChar) :=
        ⟨hne, fun c hc => List.mem_takeWhile_imp hc⟩
      have hsplit : rest.takeWhile isNameChar ++ rest.dropWhile isNameChar = rest :=
        List.takeWhile_append_dropWhile
      refine absurd ?_ (h _ after hindex)
      rw [← hafter, hsplit]
    · rfl
  · rfl

theorem readIndex_spec (text : List Char) :
    text = bracketed (readIndex text).1 ++ (readIndex text).2 ∧
      (∀ index ∈ (readIndex text).1, IsIndex index.toList) ∧
      ((readIndex text).1 = none → LacksIndex (readIndex text).2) := by
  by_cases h : LacksIndex text
  · rw [readIndex_of_lacksIndex h]
    exact ⟨rfl, by simp, fun _ => h⟩
  · simp only [LacksIndex, not_forall, not_not] at h
    obtain ⟨index, after, hindex, rfl⟩ := h
    have hlist : IsIndex (String.ofList index).toList := by rwa [String.toList_ofList]
    have hread : readIndex (bracketed (some (.ofList index)) ++ after) =
        (some (.ofList index), after) :=
      readIndex_bracketed hlist
    have htext : bracketed (some (.ofList index)) ++ after = '[' :: (index ++ ']' :: after) := by
      simp [bracketed]
    rw [htext] at hread
    rw [hread]
    refine ⟨htext.symm, ?_, by simp⟩
    rintro _ ⟨⟩
    rwa [String.toList_ofList]

theorem dropBrace_brace {closed : Bool} (h : closed = false → after.head? ≠ some '\x7d') :
    dropBrace (brace closed '\x7d' ++ after) = after := by
  cases closed with
  | true => rfl
  | false =>
    change dropBrace after = after
    unfold dropBrace
    split
    · exact absurd rfl (h rfl)
    · rfl

theorem exists_brace (text : List Char) :
    ∃ closed, text = brace closed '\x7d' ++ dropBrace text ∧
      (closed = false → (dropBrace text).head? ≠ some '\x7d') := by
  unfold dropBrace
  split
  · exact ⟨true, rfl, nofun⟩
  · next hne =>
    refine ⟨false, rfl, fun _ hhead => ?_⟩
    obtain ⟨rest, rfl⟩ := List.head?_eq_some_iff.1 hhead
    exact hne rest rfl

end Parts

section Characters

variable {r : Reference} {opened closed : Bool} {c : Char}

theorem isAlpha_iff_toNat : c.isAlpha = true ↔
    (65 ≤ c.toNat ∧ c.toNat ≤ 90) ∨ (97 ≤ c.toNat ∧ c.toNat ≤ 122) := by
  have hupper : c.isUpper = true ↔ 65 ≤ c.toNat ∧ c.toNat ≤ 90 := decide_eq_true_iff
  have hlower : c.isLower = true ↔ 97 ≤ c.toNat ∧ c.toNat ≤ 122 :=
    (Bool.and_eq_true_iff ..).trans (and_congr decide_eq_true_iff decide_eq_true_iff)
  exact (Bool.or_eq_true_iff ..).trans (or_congr hupper hlower)

theorem isNameChar_iff_toNat : isNameChar c = true ↔
    (65 ≤ c.toNat ∧ c.toNat ≤ 90) ∨ (97 ≤ c.toNat ∧ c.toNat ≤ 122) ∨
      (48 ≤ c.toNat ∧ c.toNat ≤ 57) ∨ c.toNat = 95 := by
  simp only [isNameChar, Char.isAlphanum, Bool.or_eq_true, isAlpha_iff_toNat,
    Char.isDigit_iff_toNat, beq_iff_eq, ← Char.toNat_inj, or_assoc]
  rfl

def isFormChar (c : Char) : Bool := isNameChar c || c ∈ ['\x7b', '[', ']', '\x7d']

theorem toNat_lt_of_isFormChar (h : isFormChar c = true) : c.toNat < 128 := by
  simp only [isFormChar, isNameChar_iff_toNat, Bool.or_eq_true, decide_eq_true_eq, List.mem_cons,
    List.not_mem_nil, or_false] at h
  rcases h with h | rfl | rfl | rfl | rfl
  · omega
  all_goals decide

theorem isFormChar_of_isNameChar (h : isNameChar c = true) : isFormChar c = true := by
  rw [isFormChar, h, Bool.true_or]

theorem isFormChar_of_mem_brace {d : Char} {present : Bool} (hd : isFormChar d = true)
    (h : c ∈ brace present d) : isFormChar c = true := by
  cases present with
  | true => rwa [List.mem_singleton.1 h]
  | false => cases h

theorem isFormChar_of_mem_bracketed {index : Option String} (h : ∀ i ∈ index, IsIndex i.toList)
    (hc : c ∈ bracketed index) : isFormChar c = true := by
  cases index with
  | none => cases hc
  | some index =>
    simp only [bracketed, List.mem_cons, List.mem_append, List.not_mem_nil, or_false] at hc
    rcases hc with rfl | hc | rfl
    · rfl
    · exact isFormChar_of_isNameChar ((h index rfl).all c hc)
    · rfl

theorem isFormChar_of_mem_body (h : r.Writable) :
    ∀ c ∈ r.body opened closed, isFormChar c = true := by
  intro c hc
  simp only [body, List.mem_append] at hc
  rcases hc with ((hc | hc) | hc) | hc
  · exact isFormChar_of_mem_brace rfl hc
  · exact isFormChar_of_isNameChar (h.name.all c hc)
  · exact isFormChar_of_mem_bracketed h.index hc
  · exact isFormChar_of_mem_brace rfl hc

theorem count_brace_written (h : r.Writable) (opened closed : Bool) :
    (r.written opened closed).count '\x7b' = opened.toNat ∧
      (r.written opened closed).count '\x7d' = closed.toNat := by
  have hname {d : Char} (hd : isNameChar d = false) : r.name.toList.count d = 0 :=
    count_run h.name.all hd
  have hindex {d : Char} (hd : isNameChar d = false) (hl : d ≠ '[') (hr : d ≠ ']') :
      (bracketed r.index).count d = 0 := by
    rcases hi : r.index with _ | index
    · rfl
    · have hzero : index.toList.count d = 0 := count_run (h.index index hi).all hd
      simp [bracketed, hzero, hl.symm, hr.symm]
  have hopen := hindex (d := '\x7b') rfl (by decide) (by decide)
  have hclose := hindex (d := '\x7d') rfl (by decide) (by decide)
  simp only [written, body, List.count_cons, List.count_append, hname (d := '\x7b') rfl,
    hname (d := '\x7d') rfl, hopen, hclose]
  cases opened <;> cases closed <;> decide

end Characters

section Whole

variable {r : Reference} {opened closed : Bool} {text after : List Char}

theorem readName?_of_stands (h : r.Stands opened closed text after) :
    readName? (r.name.toList ++ bracketed r.index ++ brace closed '\x7d' ++ after) =
      some (r, after) := by
  obtain ⟨first, hfirst, halpha⟩ := h.writable.name.first
  obtain ⟨more, hname⟩ := List.head?_eq_some_iff.1 hfirst
  set left := bracketed r.index ++ brace closed '\x7d' ++ after with hleft
  have htake : (r.name.toList ++ left).takeWhile isNameChar = r.name.toList :=
    takeWhile_run h.writable.name.all h.name_ends
  have hdrop : (r.name.toList ++ left).dropWhile isNameChar = left :=
    dropWhile_run h.writable.name.all h.name_ends
  have hindex : readIndex left = (r.index, brace closed '\x7d' ++ after) := by
    rw [hleft, List.append_assoc]
    rcases hi : r.index with _ | index
    · exact readIndex_of_lacksIndex (h.index_taken hi)
    · exact readIndex_bracketed (h.writable.index index hi)
  rw [List.append_assoc, List.append_assoc, ← List.append_assoc (bracketed _), ← hleft]
  unfold readName?
  split
  · next hnil => simp [hname] at hnil
  · next c rest heq =>
    have hc : c.isAlpha = true := by
      rw [hname] at heq
      cases heq
      exact halpha
    rw [if_pos hc, htake, hdrop, hindex, String.ofList_toList]
    simp only [dropBrace_brace h.brace_taken]

theorem read?_of_stands (h : r.Stands opened closed ('$' :: text) after) :
    read? text = some (r, after) := by
  have htext : text = brace opened '\x7b' ++
      (r.name.toList ++ bracketed r.index ++ brace closed '\x7d' ++ after) := by
    have heq := h.text_eq
    simp only [written, body, List.cons_append, List.cons.injEq, true_and] at heq
    simp only [heq, List.append_assoc]
  have hname := readName?_of_stands h
  rw [htext]
  cases opened with
  | true => exact hname
  | false =>
    obtain ⟨first, hfirst, halpha⟩ := h.writable.name.first
    obtain ⟨more, hmore⟩ := List.head?_eq_some_iff.1 hfirst
    change read? (r.name.toList ++ _ ++ _ ++ after) = _
    rw [hmore] at hname ⊢
    unfold read?
    split
    · next heq =>
      -- a brace is no letter, so the name does not begin with one
      cases heq
      cases halpha
    · exact hname

theorem readName?_of_isAlpha {first : Char} (h : first.isAlpha = true) (rest : List Char) :
    readName? (first :: rest) =
      some (⟨.ofList ((first :: rest).takeWhile isNameChar),
          (readIndex ((first :: rest).dropWhile isNameChar)).1⟩,
        dropBrace (readIndex ((first :: rest).dropWhile isNameChar)).2) :=
  if_pos h

theorem stands_of_readName? (opened : Bool) (h : readName? text = some (r, after)) :
    ∃ closed, r.Stands opened closed ('$' :: (brace opened '\x7b' ++ text)) after := by
  rcases text with _ | ⟨first, rest⟩
  · cases h
  have halpha : first.isAlpha = true := by
    by_contra hn
    cases (if_neg hn).symm.trans h
  rw [readName?_of_isAlpha halpha rest] at h
  set name := (first :: rest).takeWhile isNameChar with hname
  set left := (first :: rest).dropWhile isNameChar with hleft
  have hsplit : name ++ left = first :: rest := List.takeWhile_append_dropWhile
  have hends : ∀ c ∈ left.head?, isNameChar c = false := head?_dropWhile _ _
  have hfirst : name.head? = some first := by
    rw [hname, List.takeWhile_cons_of_pos (isNameChar_of_isAlpha halpha), List.head?_cons]
  obtain ⟨hindex, hwritable, hlacks⟩ := readIndex_spec left
  obtain ⟨closed, hbrace, htaken⟩ := exists_brace (readIndex left).2
  cases h
  refine ⟨closed, ?_, ⟨⟨?_, ?_⟩, hwritable⟩, ?_, ?_, htaken⟩
  · simp only [written, body, String.toList_ofList, List.append_assoc, List.cons_append, ← hbrace,
      ← hindex, hsplit]
  · exact ⟨first, by rwa [String.toList_ofList], halpha⟩
  · intro c hc
    rw [String.toList_ofList] at hc
    exact List.mem_takeWhile_imp hc
  · rwa [List.append_assoc, ← hbrace, ← hindex]
  · rwa [← hbrace]

theorem stands_of_read? (h : read? text = some (r, after)) :
    ∃ opened closed, r.Stands opened closed ('$' :: text) after := by
  unfold read? at h
  split at h
  · exact ⟨true, stands_of_readName? true h⟩
  · exact ⟨false, stands_of_readName? false h⟩

theorem Stands.unique {r' : Reference} {opened' closed' : Bool} {after' : List Char}
    (h : r.Stands opened closed text after) (h' : r'.Stands opened' closed' text after') :
    r = r' ∧ r.written opened closed = r'.written opened' closed' := by
  have htext : text = '$' :: (r.body opened closed ++ after) := h.text_eq
  have hform : text = r.written opened closed ++ after := h.text_eq
  have hform' : text = r'.written opened' closed' ++ after' := h'.text_eq
  have hread := read?_of_stands (htext ▸ h)
  have hread' := read?_of_stands (htext ▸ h')
  cases hread.symm.trans hread'
  exact ⟨rfl, List.append_cancel_right (hform.symm.trans hform')⟩

/-- A dollar sign and, after a brace that may be missing, a letter. -/
def Opens (text : List Char) : Prop :=
  ∃ opened c rest, c.isAlpha = true ∧ text = '$' :: (brace opened '\x7b' ++ c :: rest)

theorem opens_written (h : r.Writable) (opened closed : Bool) (after : List Char) :
    Opens (r.written opened closed ++ after) := by
  obtain ⟨c, hc, halpha⟩ := h.name.first
  obtain ⟨more, hname⟩ := List.head?_eq_some_iff.1 hc
  refine ⟨opened, c, more ++ (bracketed r.index ++ (brace closed '\x7d' ++ after)), halpha, ?_⟩
  simp only [written, body, hname, List.append_assoc, List.cons_append]

theorem opens_iff : Opens text ↔ ∃ r opened closed after, Stands r opened closed text after := by
  constructor
  · rintro ⟨opened, c, rest, hc, rfl⟩
    have hread := readName?_of_isAlpha hc rest
    obtain ⟨closed, h⟩ := stands_of_readName? opened hread
    exact ⟨_, opened, closed, _, h⟩
  · rintro ⟨r, opened, closed, after, h⟩
    rw [h.text_eq]
    exact opens_written h.writable opened closed after

theorem stands_written (h : r.Writable) (opened closed : Bool) :
    r.Stands opened closed (r.written opened closed) [] := by
  refine ⟨(List.append_nil _).symm, h, ?_, ?_, fun _ => nofun⟩
  · rcases r.index with _ | index <;> cases closed <;> simp [bracketed, brace, isNameChar]
  · intro _ index rest _ heq
    cases closed <;> cases heq

end Whole
end Reference
end ClaimRules
