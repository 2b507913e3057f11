import ClaimRules.Proofs.ReferenceMatches

/-! Operands and templates read references in the same way. -/

namespace ClaimRules

namespace Template

variable {r : Reference} {opened closed : Bool} {text : String}

/-- The reference is all that a template has, and takes all its bytes. -/
def Lone (text : String) (r : Reference) : Prop :=
  occurrences text = [⟨0, utf8Size text.toList, r⟩]

theorem pieces_of_stands (h : r.Stands opened closed text.toList []) :
    pieces text = [.reference r text.toList] := by
  have hform : text.toList = r.written opened closed := h.text_eq.trans (List.append_nil _)
  have hnil : piecesFrom false [] = [] := by rw [piecesFrom]
  rw [pieces, piecesFrom_of_stands false h, hnil, ← hform]
  rfl

theorem lone_of_stands (h : r.Stands opened closed text.toList []) : Lone text r := by
  rw [Lone, occurrences, pieces_of_stands h]
  simp only [occurrencesFrom, Nat.zero_add]

theorem stands_of_lone (h : Lone text r) :
    ∃ opened closed, r.Stands opened closed text.toList [] := by
  have hmem : (⟨0, utf8Size text.toList, r⟩ : Occurrence) ∈ occurrences text := by
    rw [h]
    exact List.mem_singleton_self _
  obtain ⟨before, opened, closed, rest, after, htext, -, hstands, hstart, hstop⟩ :=
    mem_occurrences_iff.1 hmem
  -- the occurrence begins with the first byte and ends with the last one
  have hbefore : before = [] := utf8Size_eq_zero hstart.symm
  subst hbefore
  have hrest : text.toList = rest := htext
  have hafter : after = [] := by
    apply utf8Size_eq_zero
    have hsize : utf8Size rest = utf8Size (r.written opened closed) + utf8Size after := by
      rw [hstands.text_eq, utf8Size_append]
    dsimp only at hstop
    rw [hrest] at hstop
    omega
  rw [hrest]
  exact ⟨opened, closed, hafter ▸ hstands⟩

theorem substitute_of_lone (h : Lone text r) (bindings : Bindings) :
    substitute text bindings = (r.resolve bindings).map Value.splice := by
  obtain ⟨opened, closed, hstands⟩ := stands_of_lone h
  rw [substitute, pieces_of_stands hstands]
  rcases hr : r.resolve bindings with e | value
  · simp only [fillPieces, hr, Except.map]
  · simp only [fillPieces, hr, Except.map, List.append_nil, String.ofList_toList]

end Template

namespace Operand

open Template (Lone substitute)

variable {r : Reference} {text : String}

def strip (text : String) : String := .ofList (trim text.toList)

theorem reference?_iff_lone : reference? text = some r ↔ Lone (strip text) r := by
  constructor
  · intro h
    obtain ⟨opened, closed, hs⟩ := spells_of_reference? h
    have hform : (strip text).toList = r.written opened closed := by
      rw [strip, String.toList_ofList, hs.trim_eq]
    have hstands : r.Stands opened closed (strip text).toList [] := by
      rw [hform]
      exact Reference.stands_written hs.1 opened closed
    exact Template.lone_of_stands hstands
  · intro h
    obtain ⟨opened, closed, hstands⟩ := Template.stands_of_lone h
    have hform : trim text.toList = '$' :: r.body opened closed := by
      rw [strip, String.toList_ofList] at hstands
      exact hstands.text_eq.trans (List.append_nil _)
    rw [strip, String.toList_ofList, hform] at hstands
    have hread := Reference.read?_of_stands hstands
    simp only [reference?, hform, hread]

/-- An operand refers to a variable exactly if a template of the same text, but for the white space around
it, has this one reference and nothing else, although each of them has a regular expression of its own.
Such a template becomes the text of the value that the operand resolves to, and fails as the operand
does. -/
theorem reference?_agrees (text : String) (r : Reference) :
    Trims text.toList (strip text).toList ∧
      matched? text = .ok (reference? text) ∧
      Template.scanned (strip text) = .ok (Template.occurrences (strip text)) ∧
      (reference? text = some r ↔
        Template.occurrences (strip text) = [⟨0, Template.utf8Size (strip text).toList, r⟩]) ∧
      (reference? text = some r → ∀ bindings,
        substitute (strip text) bindings = (r.resolve bindings).map Value.splice) := by
  have htrims : Trims text.toList (strip text).toList := by
    rw [strip, String.toList_ofList]
    exact trims_trim text.toList
  refine ⟨htrims, matched?_eq text, Template.scanned_eq _, reference?_iff_lone, fun h => ?_⟩
  exact Template.substitute_of_lone (reference?_iff_lone.1 h)

theorem reference?_agrees_padded :
    let r : Reference := ⟨"xs", some "1"⟩
    let bindings : Bindings := [("xs", .array [.null, .array [.integer 7]])]
    reference? "\u3000$\x7bxs[1]\x7d\n" = some r ∧
      substitute (strip "\u3000$\x7bxs[1]\x7d\n") bindings = .ok "[7]" := by
  intro r bindings
  have hread : reference? "\u3000$\x7bxs[1]\x7d\n" = some r := by decide
  obtain ⟨-, -, -, -, hsubstitute⟩ := reference?_agrees "\u3000$\x7bxs[1]\x7d\n" r
  exact ⟨hread, hsubstitute hread bindings⟩

end Operand
end ClaimRules
