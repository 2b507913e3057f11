import ClaimRules.Proofs.Addressing
import ClaimRules.Proofs.Literals
import ClaimRules.Proofs.WrittenForms

/-! Items of arrays by indexes that are texts. An index of digits leads to the item at the number
that they spell, if that number fits a signed word; an index that spells no such number is none for
an array. -/

namespace ClaimRules
namespace Reference

variable {name index : String} {items : List Value} {bindings : Bindings} {c : Char}

theorem integerOf?_of_isIndex (hi : IsIndex index.toList) :
    integerOf? index =
      if isDigits index.toList ∧ digitsValue index.toList < signedLimit then
        some (digitsValue index.toList : Int)
      else none := by
  have hsign {c : Char} (hc : isNameChar c = false) : ∀ rest, index.toList ≠ c :: rest := by
    intro rest heq
    have hname := hi.all c (heq ▸ List.mem_cons_self)
    cases hname.symm.trans hc
  unfold integerOf?
  split
  next negative digits heq =>
  split at heq
  · next rest htext => exact absurd htext (hsign rfl rest)
  · next rest htext => exact absurd htext (hsign rfl rest)
  · cases heq
    cases isDigits index.toList <;> simp

theorem isDigits_iff (hi : IsIndex index.toList) :
    isDigits index.toList = true ↔ ∀ c ∈ index.toList, c.isDigit = true := by
  rw [isDigits, Bool.and_eq_true_iff, List.all_eq_true]
  exact and_iff_right (by simpa using hi.nonempty)

theorem isDigit_eq_false (h : c.isAlpha = true ∨ c = '_') : c.isDigit = false := by
  rcases h with h | rfl
  · rw [isAlpha_iff_toNat] at h
    rw [← Bool.not_eq_true, Char.isDigit_iff_toNat]
    change ¬ (48 ≤ c.toNat ∧ c.toNat ≤ 57)
    omega
  · rfl

theorem resolve_index (hb : Entries.get? bindings name = some (.array items)) :
    (⟨name, some index⟩ : Reference).resolve bindings =
      (position name index items.length).map items.get := by
  simp only [resolve, hb]
  rcases position name index items.length with e | i <;> rfl

theorem resolve_of_integerOf? {k : Nat} (hb : Entries.get? bindings name = some (.array items))
    (h : integerOf? index = some (k : Int)) :
    (⟨name, some index⟩ : Reference).resolve bindings =
      if hk : k < items.length then .ok items[k]
      else .error (.lookup (.outOfBounds name items.length k)) := by
  rw [resolve_index hb]
  by_cases hk : k < items.length
  · simp [position, h, hk, Except.map]
  · simp [position, h, hk, Except.map]

theorem resolve_of_integerOf?_eq_none (hb : Entries.get? bindings name = some (.array items))
    (h : integerOf? index = none) :
    (⟨name, some index⟩ : Reference).resolve bindings =
      .error (.lookup (.badIndex name index)) := by
  simp only [resolve_index hb, position, h, Except.map]

theorem resolve_of_digits (hb : Entries.get? bindings name = some (.array items))
    (hi : IsIndex index.toList) (hd : ∀ c ∈ index.toList, c.isDigit = true)
    (hl : Nat.ofDigitChars 10 index.toList 0 < signedLimit) :
    (⟨name, some index⟩ : Reference).resolve bindings =
      if hk : Nat.ofDigitChars 10 index.toList 0 < items.length then
        .ok items[Nat.ofDigitChars 10 index.toList 0]
      else .error (.lookup (.outOfBounds name items.length (Nat.ofDigitChars 10 index.toList 0))) := by
  refine resolve_of_integerOf? hb ((integerOf?_of_isIndex hi).trans ?_)
  rw [Json.digitsValue_eq, if_pos ⟨(isDigits_iff hi).2 hd, hl⟩]

theorem resolve_of_not_digits (hb : Entries.get? bindings name = some (.array items))
    (hi : IsIndex index.toList)
    (h : ¬ ((∀ c ∈ index.toList, c.isDigit = true) ∧
      Nat.ofDigitChars 10 index.toList 0 < signedLimit)) :
    (⟨name, some index⟩ : Reference).resolve bindings =
      .error (.lookup (.badIndex name index)) := by
  refine resolve_of_integerOf?_eq_none hb ((integerOf?_of_isIndex hi).trans ?_)
  rw [Json.digitsValue_eq, if_neg fun hd => h ⟨(isDigits_iff hi).1 hd.1, hd.2⟩]

/-- An index of digits leads to the item at the number that they spell, however many zeros come
first. A number past the end is undefined, unless it is too large for a signed word: then the index
is of the wrong type, as is one with a letter or an underscore. A value can be assigned to the items
that are there and to nothing else. -/
theorem resolve_index_text (hb : Entries.get? bindings name = some (.array items))
    (hi : IsIndex index.toList) :
    let r : Reference := ⟨name, some index⟩
    let k := Nat.ofDigitChars 10 index.toList 0
    ((∀ c ∈ index.toList, c.isDigit = true) →
      (k < signedLimit → ∀ h : k < items.length, r.resolve bindings = .ok items[k]) ∧
      (k < signedLimit → items.length ≤ k →
        ∃ e, r.resolve bindings = .error e ∧ e.kind = .undefinedValue) ∧
      (signedLimit ≤ k → ∃ e, r.resolve bindings = .error e ∧ e.kind = .invalidType)) ∧
    ((∃ c ∈ index.toList, c.isAlpha = true ∨ c = '_') →
      ∃ e, r.resolve bindings = .error e ∧ e.kind = .invalidType) ∧
    ∀ value, (r.assign value bindings).1 = .ok () ↔
      (∀ c ∈ index.toList, c.isDigit = true) ∧ k < signedLimit ∧ k < items.length := by
  intro r k
  refine ⟨fun hd => ⟨fun hl h => ?_, fun hl h => ?_, fun hl => ?_⟩, fun hc => ?_, fun value => ?_⟩
  · exact (resolve_of_digits hb hi hd hl).trans (dif_pos h)
  · exact ⟨_, (resolve_of_digits hb hi hd hl).trans (dif_neg (Nat.not_lt.2 h)), rfl⟩
  · exact ⟨_, resolve_of_not_digits hb hi fun h => absurd h.2 (Nat.not_lt.2 hl), rfl⟩
  · obtain ⟨c, hmem, hletter⟩ := hc
    refine ⟨_, resolve_of_not_digits hb hi fun h => ?_, rfl⟩
    cases (h.1 c hmem).symm.trans (isDigit_eq_false hletter)
  · rw [assign_eq_ok_iff]
    constructor
    · intro ha
      obtain ⟨found, hfound⟩ := ha.resolve_left nofun
      by_cases h : (∀ c ∈ index.toList, c.isDigit = true) ∧ k < signedLimit
      · refine ⟨h.1, h.2, ?_⟩
        by_contra hlt
        cases hfound.symm.trans ((resolve_of_digits hb hi h.1 h.2).trans (dif_neg hlt))
      · cases hfound.symm.trans (resolve_of_not_digits hb hi h)
    · rintro ⟨hd, hl, hlt⟩
      exact .inr ⟨_, (resolve_of_digits hb hi hd hl).trans (dif_pos hlt)⟩

theorem resolve_index_text_zeros :
    let bindings : Bindings := [("xs", .array [.null, .integer 7])]
    (⟨"xs", some "00000000000000000000001"⟩ : Reference).resolve bindings = .ok (.integer 7) ∧
      (∃ e, (⟨"xs", some "1_"⟩ : Reference).resolve bindings = .error e ∧ e.kind = .invalidType) ∧
      ((⟨"xs", some "2"⟩ : Reference).assign .null bindings).1 ≠ .ok () := by
  intro bindings
  have hb : Entries.get? bindings "xs" = some (.array [.null, .integer 7]) := rfl
  have hzeros : IsIndex "00000000000000000000001".toList :=
    ⟨by decide, List.all_eq_true.1 (by decide)⟩
  have hunderscore : IsIndex "1_".toList :=
    ⟨by decide, List.all_eq_true.1 (by decide)⟩
  have hpast : IsIndex "2".toList :=
    ⟨by decide, List.all_eq_true.1 (by decide)⟩
  obtain ⟨hdigits, -, -⟩ := resolve_index_text hb hzeros
  obtain ⟨-, hletter, -⟩ := resolve_index_text hb hunderscore
  obtain ⟨-, -, hassign⟩ := resolve_index_text hb hpast
  refine ⟨(hdigits (List.all_eq_true.1 (by decide))).1 (by decide) (by decide),
    hletter ⟨'_', by decide, .inr rfl⟩, ?_⟩
  intro h
  exact absurd ((hassign .null).1 h).2.2 (by decide)

/-- An index past the end is undefined, one would think, but not if it is longer than a word. -/
theorem resolve_index_long :
    ¬ ∀ (name index : String) (items : List Value) (bindings : Bindings),
      Entries.get? bindings name = some (.array items) → IsIndex index.toList →
        (∀ c ∈ index.toList, c.isDigit = true) →
          items.length ≤ Nat.ofDigitChars 10 index.toList 0 →
            ∃ e, (⟨name, some index⟩ : Reference).resolve bindings = .error e ∧
              e.kind = .undefinedValue := by
  intro h
  have hindex : IsIndex "9223372036854775808".toList :=
    ⟨by decide, List.all_eq_true.1 (by decide)⟩
  obtain ⟨e, he, hkind⟩ := h "xs" "9223372036854775808" [.integer 1]
    [("xs", .array [.integer 1])] rfl hindex (List.all_eq_true.1 (by decide)) (by decide)
  have hbad : (⟨"xs", some "9223372036854775808"⟩ : Reference).resolve
      [("xs", .array [.integer 1])] = .error (.lookup (.badIndex "xs" "9223372036854775808")) :=
    resolve_of_integerOf?_eq_none rfl (by decide)
  cases he.symm.trans hbad
  cases hkind

end Reference
end ClaimRules
