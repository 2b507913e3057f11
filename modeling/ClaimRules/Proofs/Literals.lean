import ClaimRules.Proofs.Result
import ClaimRules.Json.Printer
import ClaimRules.Json.Reader
import Mathlib.Data.List.Basic

/-! Printed strings and whole numbers are read back, whatever text follows them. -/

namespace ClaimRules

namespace Json

theorem hexUnit?_of_lt : ∀ n < 32,
    hexUnit? '0' '0' (hexDigit (n / 16)) (hexDigit (n % 16)) = some n := by decide

theorem readChars_short {esc c : Char} (h : shortEscape? esc = some c) (rest : List Char) :
    readChars ('\\' :: esc :: rest) = (readChars rest).map fun read => (c :: read.1, read.2) := by
  have hu : esc ≠ 'u' := by
    rintro rfl
    cases h
  rw [readChars, h]
  · rcases readChars rest with fault | read <;> rfl
  · rintro a b d e left he -
    exact hu he

theorem readChars_hex {n : Nat} (h : n < 32) (rest : List Char) :
    readChars ('\\' :: 'u' :: '0' :: '0' :: hexDigit (n / 16) :: hexDigit (n % 16) :: rest) =
      (readChars rest).map fun read => (Char.ofNat n :: read.1, read.2) := by
  have hlow : isLowSurrogate n = false := by
    simp only [isLowSurrogate, Bool.and_eq_false_iff, decide_eq_false_iff_not]
    omega
  have hhigh : isHighSurrogate n = false := by
    simp only [isHighSurrogate, Bool.and_eq_false_iff, decide_eq_false_iff_not]
    omega
  rw [readChars, hexUnit?_of_lt n h]
  simp only [hlow, hhigh]
  rcases readChars rest with fault | read <;> rfl

theorem readChars_plain {c : Char} (hq : c ≠ '"') (hb : c ≠ '\\') (hc : 32 ≤ c.toNat)
    (rest : List Char) :
    readChars (c :: rest) = (readChars rest).map fun read => (c :: read.1, read.2) := by
  rw [readChars, if_neg hb, if_neg (by omega)]
  · rcases readChars rest with fault | read <;> rfl
  all_goals simp [hq, hb]

theorem readChars_escapeChar (c : Char) (rest : List Char) :
    readChars (escapeChar c ++ rest) =
      (readChars rest).map fun read => (c :: read.1, read.2) := by
  have hcode : Char.ofNat c.toNat = c := Char.ofNat_toNat c
  unfold escapeChar
  split_ifs with hquote hback hn hr ht hb hf hcontrol
  · rw [hquote]
    exact readChars_short rfl rest
  · rw [hback]
    exact readChars_short rfl rest
  · rw [hn]
    exact readChars_short rfl rest
  · rw [hr]
    exact readChars_short rfl rest
  · rw [ht]
    exact readChars_short rfl rest
  · have hb' : shortEscape? 'b' = some c := congrArg some (hb ▸ hcode)
    exact readChars_short hb' rest
  · have hf' : shortEscape? 'f' = some c := congrArg some (hf ▸ hcode)
    exact readChars_short hf' rest
  · have h := readChars_hex hcontrol rest
    rw [hcode] at h
    exact h
  · exact readChars_plain hquote hback (by omega) rest

theorem readChars_quoted (chars rest : List Char) :
    readChars (chars.flatMap escapeChar ++ '"' :: rest) = .ok (chars, rest) := by
  induction chars with
  | nil => simp [readChars]
  | cons c chars ih =>
    rw [List.flatMap_cons, List.append_assoc, readChars_escapeChar, ih]
    rfl

/-- What stands here does not go on with a number. -/
def EndsNumber (text : List Char) : Prop :=
  ∀ c ∈ text.head?, c.isDigit = false ∧ c ≠ '.' ∧ c ≠ 'e' ∧ c ≠ 'E'

theorem endsNumber_nil : EndsNumber [] := fun _ h => nomatch h

theorem endsNumber_cons {c : Char} {text : List Char}
    (h : c.isDigit = false ∧ c ≠ '.' ∧ c ≠ 'e' ∧ c ≠ 'E') : EndsNumber (c :: text) := by
  rintro _ ⟨⟩
  exact h

theorem digitsValue_eq (digits : List Char) : digitsValue digits = Nat.ofDigitChars 10 digits 0 := by
  simp only [digitsValue, Nat.ofDigitChars, Nat.mul_comm]

theorem digitsValue_toDigits (n : Nat) : digitsValue (Nat.toDigits 10 n) = n := by
  rw [digitsValue_eq, Nat.ofDigitChars_toDigits (by decide) (by decide)]

theorem isDigit_of_mem_toDigits {n : Nat} {c : Char} (h : c ∈ Nat.toDigits 10 n) :
    c.isDigit = true :=
  Nat.isDigit_of_mem_toDigits (by decide) (by decide) h

theorem exists_lead_toDigits (n : Nat) :
    ∃ lead rest, Nat.toDigits 10 n = lead :: rest ∧ lead.isDigit = true := by
  rcases hd : Nat.toDigits 10 n with _ | ⟨lead, rest⟩
  · exact absurd hd Nat.toDigits_ne_nil
  · have hmem : lead ∈ Nat.toDigits 10 n := hd ▸ List.mem_cons_self
    exact ⟨lead, rest, rfl, isDigit_of_mem_toDigits hmem⟩

theorem exists_lead_writeInt (n : Int) :
    ∃ lead rest, writeInt n = lead :: rest ∧ (lead = '-' ∨ lead.isDigit = true) := by
  unfold writeInt
  split
  · exact ⟨'-', _, rfl, .inl rfl⟩
  · obtain ⟨lead, rest, hd, hlead⟩ := exists_lead_toDigits n.natAbs
    exact ⟨lead, rest, hd, .inr hlead⟩

theorem head?_toDigits_ne_zero {n : Nat} (h : n ≠ 0) : (Nat.toDigits 10 n).head? ≠ some '0' := by
  induction n using Nat.strongRecOn with
  | ind n ih =>
    by_cases hn : n < 10
    · have hdigit : ∀ n < 10, n ≠ 0 → n.digitChar ≠ '0' := by decide
      rw [Nat.toDigits_of_lt_base hn]
      exact fun e => hdigit n hn h (Option.some.inj e)
    · rw [Nat.toDigits_of_base_le (by decide) (by omega),
        List.head?_append_of_ne_nil _ Nat.toDigits_ne_nil]
      exact ih (n / 10) (by omega) (by omega)

theorem readDigits_toDigits (n : Nat) {rest : List Char} (h : EndsNumber rest) :
    readDigits (Nat.toDigits 10 n ++ rest) = .ok (Nat.toDigits 10 n, rest) := by
  have hdigits : ∀ c ∈ Nat.toDigits 10 n, c.isDigit = true := fun _ => isDigit_of_mem_toDigits
  have hrest : rest.takeWhile Char.isDigit = [] ∧ rest.dropWhile Char.isDigit = rest := by
    rcases rest with _ | ⟨c, rest⟩
    · exact ⟨rfl, rfl⟩
    · have hc : c.isDigit = false := (h c rfl).1
      simp [hc]
  unfold readDigits
  rw [List.takeWhile_append_of_pos hdigits, List.dropWhile_append_of_pos hdigits, hrest.1, hrest.2,
    List.append_nil]
  split
  · next hnil => exact absurd hnil Nat.toDigits_ne_nil
  · rfl

theorem readWhole_toDigits (n : Nat) {rest : List Char} (h : EndsNumber rest) :
    readWhole (Nat.toDigits 10 n ++ rest) = .ok (Nat.toDigits 10 n, rest) := by
  unfold readWhole
  rw [readDigits_toDigits n h]
  split
  · next he => cases he
  · next digit digits left he =>
    -- a zero that leads others would be the zero of the number zero, which stands alone
    have hlead : Nat.toDigits 10 n = '0' :: digit :: digits := (Prod.mk.inj (Except.ok.inj he)).1
    have hn : n = 0 := by
      by_contra hn
      exact head?_toDigits_ne_zero hn (by rw [hlead]; rfl)
    rw [hn] at hlead
    cases hlead
  · next he =>
    cases he
    rfl

theorem readFraction_of_endsNumber {rest : List Char} (h : EndsNumber rest) :
    readFraction rest = .ok ([], rest) := by
  unfold readFraction
  split
  · exact absurd rfl (h '.' rfl).2.1
  · rfl

theorem readExponent_of_endsNumber {rest : List Char} (h : EndsNumber rest) :
    readExponent rest = .ok (none, rest) := by
  rcases rest with _ | ⟨c, rest⟩
  · rfl
  · have hc : ¬(c = 'e' ∨ c = 'E') := not_or.2 (h c rfl).2.2
    unfold readExponent
    exact if_neg hc

theorem readNumeral_writeInt (n : Int) {rest : List Char} (h : EndsNumber rest) :
    readNumeral (writeInt n ++ rest) =
      .ok (⟨decide (n < 0), Nat.toDigits 10 n.natAbs, [], 0, true⟩, rest) := by
  have hwhole := readWhole_toDigits n.natAbs h
  have hfraction := readFraction_of_endsNumber h
  have hexponent := readExponent_of_endsNumber h
  have hread (text : List Char) (negative : Bool) (hn : (text.head? == some '-') = negative)
      (ht : (if negative then text.drop 1 else text) = Nat.toDigits 10 n.natAbs ++ rest) :
      readNumeral text = .ok (⟨negative, Nat.toDigits 10 n.natAbs, [], 0, true⟩, rest) := by
    unfold readNumeral
    simp only [hn, ht, hwhole, bind, Except.bind, hfraction, hexponent]
    rfl
  by_cases hn : n < 0
  · have hw : writeInt n = '-' :: Nat.toDigits 10 n.natAbs := if_pos hn
    rw [hw, decide_eq_true hn]
    exact hread _ true rfl rfl
  · have hw : writeInt n = Nat.toDigits 10 n.natAbs := if_neg hn
    rw [hw, decide_eq_false hn]
    refine hread _ false ?_ rfl
    obtain ⟨lead, more, hd, hlead⟩ := exists_lead_toDigits n.natAbs
    have hne : lead ≠ '-' := by
      rintro rfl
      cases hlead
    rw [hd]
    simpa using hne

theorem value_signed (n : Int64) :
    Numeral.value ⟨decide (n.toInt < 0), Nat.toDigits 10 n.toInt.natAbs, [], 0, true⟩ =
      .ok (.integer n) := by
  have hlow : -2 ^ 63 ≤ n.toInt := n.le_toInt
  have hhigh : n.toInt < 2 ^ 63 := n.toInt_lt
  have hlimit : signedLimit = 2 ^ 63 := rfl
  have hwhole : digitsValue (Nat.toDigits 10 n.toInt.natAbs) = n.toInt.natAbs :=
    digitsValue_toDigits _
  unfold Numeral.value
  dsimp only
  by_cases hn : n.toInt < 0
  · have habs : -(n.toInt.natAbs : Int) = n.toInt := by omega
    rw [if_pos ⟨rfl, decide_eq_true hn, by omega, by omega⟩, hwhole, habs, Int64.ofInt_toInt]
  · have habs : (n.toInt.natAbs : Int) = n.toInt := by omega
    rw [if_neg (fun h => hn (of_decide_eq_true h.2.1)),
      if_pos ⟨rfl, fun h => hn (of_decide_eq_true h), by omega⟩, hwhole, habs, Int64.ofInt_toInt]

theorem readNumber_writeInt (n : Int64) {rest : List Char} (h : EndsNumber rest) :
    readNumber (writeInt n.toInt ++ rest) = .ok (.integer n, rest) := by
  simp only [readNumber, readNumeral_writeInt n.toInt h, bind, Except.bind, value_signed]
  rfl

end Json

theorem Binary64.head?_write (layout : Layout) (x : Binary64) :
    ∃ c, (x.write layout).head? = some c ∧ (c = '-' ∨ c.isDigit = true) := by
  have hsign (digits : List Char) (h : ∃ c, digits.head? = some c ∧ c.isDigit = true) :
      ∃ c, ((if x.isNegative then ['-'] else []) ++ digits).head? = some c ∧
        (c = '-' ∨ c.isDigit = true) := by
    obtain ⟨c, hc, hdigit⟩ := h
    by_cases hn : x.isNegative = true
    · rw [if_pos hn]
      exact ⟨'-', rfl, .inl rfl⟩
    · rw [if_neg hn]
      exact ⟨c, hc, .inr hdigit⟩
  unfold write
  extract_lets sign d digits first
  obtain ⟨lead, rest, hdigits, hlead⟩ : ∃ lead rest, digits = lead :: rest ∧ lead.isDigit = true :=
    Json.exists_lead_toDigits d.digits
  split
  · exact hsign _ ⟨'0', rfl, rfl⟩
  split
  · refine hsign _ ?_
    unfold positional
    split
    · exact ⟨'0', rfl, rfl⟩
    split
    · next hpoint _ =>
      obtain ⟨n, hn⟩ : ∃ n, (first + 1).toNat = n + 1 := ⟨(first + 1).toNat - 1, by omega⟩
      rw [hdigits, hn]
      exact ⟨lead, rfl, hlead⟩
    · rw [hdigits]
      exact ⟨lead, rfl, hlead⟩
  · refine hsign _ ?_
    unfold scientific
    rw [hdigits]
    exact ⟨lead, rfl, hlead⟩

end ClaimRules
