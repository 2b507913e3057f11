import ClaimRules.Proofs.Literals
import ClaimRules.Proofs.OperandSyntax
import ClaimRules.Proofs.Regularity

/-! The texts that operands are shown as, read as operands again. -/

namespace ClaimRules

namespace Value

def isLead (c : Char) : Bool :=
  c.isDigit || c ∈ ['"', '[', '\x7b', '-', 'N', 'I', 't', 'f', 'n']

theorem isLead_of_numeral {c : Char} (h : c = '-' ∨ c.isDigit = true) : isLead c = true := by
  rcases h with rfl | h
  · decide
  · rw [isLead, h, Bool.true_or]

theorem head?_spellReal (x : Binary64) : ∃ c ∈ (spellReal x).head?, isLead c = true := by
  unfold spellReal
  split
  · exact ⟨'N', rfl, by decide⟩
  split
  · obtain ⟨c, hc, hnumeral⟩ := Binary64.head?_write realLayout x
    exact ⟨c, hc, isLead_of_numeral hnumeral⟩
  split
  · exact ⟨'-', rfl, by decide⟩
  · exact ⟨'I', rfl, by decide⟩

theorem head?_spell (value : Value) : ∃ c ∈ (spell value).head?, isLead c = true := by
  cases value with
  | string text => exact ⟨'"', by simp [spell, spellText], by decide⟩
  | array items => exact ⟨'[', by simp [spell], by decide⟩
  | map entries => exact ⟨'\x7b', by simp [spell], by decide⟩
  | integer n =>
    obtain ⟨lead, rest, hspell, hlead⟩ := Json.exists_lead_writeInt n.toInt
    have hhead : (spell (.integer n)).head? = some lead := by
      rw [spell, show spellInt n.toInt = lead :: rest from hspell, List.head?_cons]
    exact ⟨lead, hhead, isLead_of_numeral hlead⟩
  | real x =>
    rw [spell]
    exact head?_spellReal x
  | boolean b => cases b <;> exact ⟨_, rfl, by decide⟩
  | null => exact ⟨'n', rfl, by decide⟩

end Value

namespace Operand

variable {r : Reference} {text : String} {value : Value}

theorem front_of_reference? (h : reference? text = some r) :
    ∀ c ∈ text.toList.head?, isBlank c = true ∨ c = '$' := by
  obtain ⟨opened, closed, -, left, right, hblank, htext⟩ := spells_of_reference? h
  intro c hc
  cases left with
  | nil =>
    rw [htext] at hc
    exact .inr (Option.some.inj hc).symm
  | cons d left =>
    rw [htext] at hc
    cases hc
    exact .inl (hblank c List.mem_cons_self)

theorem not_front_of_isLead {c : Char} (h : Value.isLead c = true) :
    ¬(isBlank c = true ∨ c = '$') := by
  simp only [Value.isLead, Bool.or_eq_true, decide_eq_true_eq, List.mem_cons, List.not_mem_nil,
    or_false] at h
  rcases h with hdigit | rfl | rfl | rfl | rfl | rfl | rfl | rfl | rfl | rfl
  · have hname : Reference.isNameChar c = true := by
      simp [Reference.isNameChar, Char.isAlphanum, hdigit]
    have hblank : isBlank c = false :=
      not_isBlank_of_isFormChar (Reference.isFormChar_of_isNameChar hname)
    rintro (hb | rfl)
    · cases hblank.symm.trans hb
    · cases hdigit
  all_goals decide

theorem reference?_natural (value : Value) : reference? value.natural = none := by
  rcases hr : reference? value.natural with _ | r
  · rfl
  · obtain ⟨c, hc, hlead⟩ := value.head?_spell
    rw [← String.toList_ofList (l := value.spell)] at hc
    exact absurd (front_of_reference? hr c hc) (not_front_of_isLead hlead)

theorem reference?_splice (h : ofValue value = .constant value) :
    reference? value.splice = none := by
  cases value with
  | string text => exact ofValue_eq_constant_iff.1 h
  | _ => exact reference?_natural _

theorem toList_text (r : Reference) : r.text.toList = r.written false false := by
  rcases hi : r.index with _ | index <;>
    simp [Reference.text, Reference.written, Reference.body, Reference.bracketed, Reference.brace, hi]

theorem reference?_text (h : reference? text = some r) : reference? r.text = some r := by
  obtain ⟨opened, closed, hw, -⟩ := spells_of_reference? h
  have hs : Spells r.text r false false := ⟨hw, [], [], nofun, by rw [toList_text]; simp⟩
  exact hs.reference?_eq

theorem ofValue_of_reference? (h : reference? text = some r) :
    ofValue (.string text) = .reference r := by
  simp only [ofValue, h]

theorem exists_text_of_ofValue (h : ofValue value = .reference r) :
    ∃ text, value = .string text ∧ reference? text = some r := by
  cases value with
  | string text =>
    refine ⟨text, rfl, ?_⟩
    rcases hr : reference? text with _ | found
    · simp [ofValue, hr] at h
    · simpa [ofValue, hr] using h
  | _ => cases h

/-- An operand is shown as a text that stands for the same reference or, if the operand is a constant, for
the text itself. Either way that text is shown as it is. -/
theorem ofValue_text (value : Value) :
    (∀ r, ofValue value = .reference r → ofValue (.string (ofValue value).text) = .reference r) ∧
      (∀ c, ofValue value = .constant c →
        ofValue (.string (ofValue value).text) = .constant (.string (ofValue value).text)) ∧
      (ofValue (.string (ofValue value).text)).text = (ofValue value).text := by
  rcases ho : ofValue value with c | r
  · have hc : value = c := eq_of_ofValue_constant ho
    subst hc
    have hread : ofValue (.string value.splice) = .constant (.string value.splice) :=
      ofValue_eq_constant_iff.2 (reference?_splice ho)
    refine ⟨nofun, fun _ _ => hread, ?_⟩
    rw [text, hread]
    rfl
  · obtain ⟨text, -, hr⟩ := exists_text_of_ofValue ho
    have hread : ofValue (.string r.text) = .reference r := ofValue_of_reference? (reference?_text hr)
    refine ⟨?_, nofun, ?_⟩
    · rintro _ ⟨⟩
      exact hread
    · exact congrArg Operand.text hread

theorem ofValue_text_padded :
    ofValue (.string "\u00a0$\x7bx[0]\x7d ") = .reference ⟨"x", some "0"⟩ ∧
      ofValue (.string "$x[0]") = .reference ⟨"x", some "0"⟩ ∧
      ofValue (.string "[\"$x\", \" \"]") = .constant (.string "[\"$x\", \" \"]") := by
  have hpadded : ofValue (.string "\u00a0$\x7bx[0]\x7d ") = .reference ⟨"x", some "0"⟩ := by rfl
  obtain ⟨hreference, -, -⟩ := ofValue_text (.string "\u00a0$\x7bx[0]\x7d ")
  obtain ⟨-, hconstant, -⟩ := ofValue_text (.array [.string "$x", .string " "])
  exact ⟨hpadded, hreference _ hpadded, hconstant _ rfl⟩

end Operand
end ClaimRules
