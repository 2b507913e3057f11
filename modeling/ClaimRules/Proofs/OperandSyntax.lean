import ClaimRules.Proofs.WrittenForms
import Mathlib.Data.List.Basic

/-! The syntax of operands: which texts refer to a variable, and to which one. -/

namespace ClaimRules
namespace Operand

variable {r : Reference} {opened closed : Bool} {text : String}

theorem not_isBlank_of_isFormChar {c : Char} (h : Reference.isFormChar c = true) :
    isBlank c = false := by
  have hascii : ∀ n < 128, Reference.isFormChar (Char.ofNat n) = true →
      Unicode.whiteSpace.contains n = false := by
    decide +kernel
  have hc := hascii c.toNat (Reference.toNat_lt_of_isFormChar h)
  rw [Char.ofNat_toNat] at hc
  exact hc h

theorem not_isBlank_of_mem_written (h : r.Writable) :
    ∀ c ∈ r.written opened closed, isBlank c = false := by
  intro c hc
  rcases List.mem_cons.1 hc with rfl | hc
  · decide
  · exact not_isBlank_of_isFormChar (Reference.isFormChar_of_mem_body h c hc)

structure Trims (chars middle : List Char) : Prop where
  around : ∃ left right, (∀ c ∈ left ++ right, isBlank c = true) ∧ chars = left ++ middle ++ right
  front : ∀ c ∈ middle.head?, isBlank c = false
  back : ∀ c ∈ middle.getLast?, isBlank c = false

theorem trims_trim (chars : List Char) : Trims chars (trim chars) := by
  set inner := chars.dropWhile isBlank with hinner
  set right := (inner.reverse.takeWhile isBlank).reverse with hright
  have htrim : trim chars ++ right = inner := by
    rw [trim, ← hinner, hright, ← List.reverse_append, List.takeWhile_append_dropWhile,
      List.reverse_reverse]
  have hblank : ∀ c ∈ chars.takeWhile isBlank ++ right, isBlank c = true := by
    intro c hc
    rcases List.mem_append.1 hc with hc | hc
    · exact List.mem_takeWhile_imp hc
    · exact List.mem_takeWhile_imp (List.mem_reverse.1 hc)
  refine ⟨⟨chars.takeWhile isBlank, right, hblank, ?_⟩, ?_, ?_⟩
  · rw [List.append_assoc, htrim, hinner, List.takeWhile_append_dropWhile]
  · intro c hc
    obtain ⟨more, hmore⟩ := List.head?_eq_some_iff.1 hc
    have hhead : inner.head? = some c := by rw [← htrim, hmore, List.cons_append, List.head?_cons]
    exact Reference.head?_dropWhile _ _ c hhead
  · rw [trim, List.getLast?_reverse]
    exact Reference.head?_dropWhile _ _

theorem trim_of_solid {left middle right : List Char}
    (hblank : ∀ c ∈ left ++ right, isBlank c = true) (hne : middle ≠ [])
    (hsolid : ∀ c ∈ middle, isBlank c = false) : trim (left ++ middle ++ right) = middle := by
  have hl : ∀ c ∈ left, isBlank c = true := fun c hc => hblank c (List.mem_append_left _ hc)
  have hr : ∀ c ∈ right.reverse, isBlank c = true :=
    fun c hc => hblank c (List.mem_append_right _ (List.mem_reverse.1 hc))
  have hfront : (left ++ (middle ++ right)).dropWhile isBlank = middle ++ right := by
    refine Reference.dropWhile_run hl fun c hc => ?_
    rw [List.head?_append_of_ne_nil _ hne] at hc
    exact hsolid c (List.mem_of_head? hc)
  have hback : (right.reverse ++ middle.reverse).dropWhile isBlank = middle.reverse := by
    refine Reference.dropWhile_run hr fun c hc => ?_
    rw [List.head?_reverse] at hc
    exact hsolid c (List.mem_of_getLast? hc)
  rw [trim, List.append_assoc, hfront, List.reverse_append, hback, List.reverse_reverse]

/-- The text is white space, a written form of the reference, and white space. -/
def Spells (text : String) (r : Reference) (opened closed : Bool) : Prop :=
  r.Writable ∧ ∃ left right, (∀ c ∈ left ++ right, isBlank c = true) ∧
    text.toList = left ++ r.written opened closed ++ right

/-- The forms that are documented: `$name`, `$name[index]`, and both in a pair of braces. -/
def Documented (text : String) (r : Reference) : Prop := ∃ braced, Spells text r braced braced

theorem spells_of_reference? (h : reference? text = some r) :
    ∃ opened closed, Spells text r opened closed := by
  unfold reference? at h
  split at h
  · next rest hrest =>
    split at h
    · next found hread =>
      cases h
      obtain ⟨opened, closed, hstands⟩ := Reference.stands_of_read? hread
      obtain ⟨left, right, hblank, htext⟩ := (trims_trim text.toList).around
      rw [hrest, hstands.text_eq, List.append_nil] at htext
      exact ⟨opened, closed, hstands.writable, left, right, hblank, htext⟩
    · cases h
  · cases h

theorem Spells.trim_eq (h : Spells text r opened closed) :
    trim text.toList = r.written opened closed := by
  obtain ⟨hw, left, right, hblank, htext⟩ := h
  rw [htext]
  exact trim_of_solid hblank nofun (not_isBlank_of_mem_written hw)

theorem Spells.reference?_eq (h : Spells text r opened closed) : reference? text = some r := by
  have hread := Reference.read?_of_stands (Reference.stands_written h.1 opened closed)
  simp only [reference?, h.trim_eq, Reference.written, hread]

theorem reference?_eq_some_iff :
    reference? text = some r ↔ ∃ opened closed, Spells text r opened closed := by
  constructor
  · exact spells_of_reference?
  · rintro ⟨opened, closed, h⟩
    exact h.reference?_eq

theorem ofValue_eq_constant_iff :
    ofValue (.string text) = .constant (.string text) ↔ reference? text = none := by
  rcases h : reference? text with _ | r <;> simp [ofValue, h]

theorem Spells.count_brace (h : Spells text r opened closed) :
    text.toList.count '\x7b' = opened.toNat ∧ text.toList.count '\x7d' = closed.toNat := by
  obtain ⟨hw, left, right, hblank, htext⟩ := h
  have hzero {c : Char} (hc : isBlank c = false) : left.count c + right.count c = 0 := by
    rw [← List.count_append]
    exact Reference.count_run hblank hc
  have hopen := hzero (c := '\x7b') (by decide)
  have hclose := hzero (c := '\x7d') (by decide)
  obtain ⟨hl, hr⟩ := Reference.count_brace_written hw opened closed
  rw [htext]
  simp only [List.count_append]
  omega

theorem documented_iff :
    Documented text r ↔
      reference? text = some r ∧ text.toList.count '\x7b' = text.toList.count '\x7d' := by
  constructor
  · rintro ⟨braced, h⟩
    obtain ⟨hopen, hclose⟩ := h.count_brace
    exact ⟨h.reference?_eq, hopen.trans hclose.symm⟩
  · rintro ⟨h, hcount⟩
    obtain ⟨opened, closed, hs⟩ := spells_of_reference? h
    obtain ⟨hopen, hclose⟩ := hs.count_brace
    have heq : opened = closed := by
      rw [hopen, hclose] at hcount
      revert hcount
      cases opened <;> cases closed <;> decide
    subst heq
    exact ⟨opened, hs⟩

/-- An operand refers to a variable exactly if it is a written form of the reference with white space
around it, where either brace may be missing; all other texts are constants. The documented forms are
those among them with as many opening as closing braces. -/
theorem reference?_grammar (text : String) :
    (∀ r, reference? text = some r ↔ ∃ opened closed, Spells text r opened closed) ∧
      (∀ r, Documented text r ↔
        reference? text = some r ∧ text.toList.count '\x7b' = text.toList.count '\x7d') ∧
      (ofValue (.string text) = .constant (.string text) ↔
        ∀ r opened closed, ¬ Spells text r opened closed) := by
  refine ⟨fun r => reference?_eq_some_iff, fun r => documented_iff, ?_⟩
  rw [ofValue_eq_constant_iff, Option.eq_none_iff_forall_not_mem]
  simp only [Option.mem_def, reference?_eq_some_iff, not_exists]

/-- A brace that is not closed is accepted, against the documented forms. -/
theorem reference?_unclosed : ¬ ∀ text r, reference? text = some r ↔ Documented text r := by
  intro h
  have hread : reference? "$\x7bname" = some ⟨"name", none⟩ := by decide
  obtain ⟨-, hcount⟩ := documented_iff.1 ((h _ _).1 hread)
  revert hcount
  decide

end Operand
end ClaimRules
