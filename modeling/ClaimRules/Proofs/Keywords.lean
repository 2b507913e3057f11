import ClaimRules.Proofs.Causes
import Mathlib.Data.List.Basic

/-! The words that statements are written with. They are looked up by the lower case of all of Unicode,
and yet nothing but the case of ASCII letters may differ: outside ASCII only the sign of the kelvin has
a lower case within it, and that is a letter which no keyword has. -/

namespace ClaimRules

namespace Unicode

variable {c : Char} {before rest : List Char} {run : CaseRun} {code : Nat}

namespace CaseRun

theorem bounds_of_covers (h : run.covers code = true) : run.first ≤ code ∧ code ≤ run.last := by
  simp only [covers, Bool.and_eq_true, decide_eq_true_eq] at h
  exact h.1

def AvoidsAscii (run : CaseRun) : Prop :=
  128 ≤ run.first + run.shift ∧
    (run.last + run.shift < 0xd800 ∨
      0xdfff < run.first + run.shift ∧ run.last + run.shift < 0x110000)

instance (run : CaseRun) : Decidable run.AvoidsAscii := inferInstanceAs (Decidable (_ ∧ _))

theorem AvoidsAscii.le_toNat (h : run.AvoidsAscii) (hc : run.covers code = true) :
    128 ≤ (Char.ofNat (run.move code)).toNat := by
  obtain ⟨hlow, hvalid⟩ := h
  obtain ⟨hfirst, hlast⟩ := bounds_of_covers hc
  have hmove : (run.move code : Int) = code + run.shift := by
    unfold move
    omega
  have hchar : (run.move code).isValidChar := by
    unfold Nat.isValidChar
    omega
  have himage : (Char.ofNat (run.move code)).toNat = run.move code := by
    rw [Char.ofNat, dif_pos hchar]
    rfl
  omega

end CaseRun

def capitals : CaseRun := ⟨0x41, 0x5a, 1, 32⟩

/-- The last case is that of the sign of the kelvin. -/
theorem cases_of_mem_lowerRuns : ∀ run ∈ lowerRuns, run = capitals ∨ 128 ≤ run.first ∧
    (run.AvoidsAscii ∨ run.first = run.last ∧ Char.ofNat (run.move run.last) = 'k') := by
  decide +kernel

theorem shiftCode_of_ascii (h : code < 128) :
    shiftCode lowerRuns code = if capitals.covers code then capitals.move code else code := by
  unfold shiftCode
  split
  · next run hfind =>
    have hcovers := List.find?_some (p := fun run : CaseRun => run.covers code) hfind
    obtain ⟨hfirst, -⟩ := CaseRun.bounds_of_covers hcovers
    obtain rfl | ⟨hbeyond, -⟩ := cases_of_mem_lowerRuns run (List.mem_of_find?_eq_some hfind)
    · rw [if_pos hcovers]
    · omega
  · next hnone => rw [if_neg (List.find?_eq_none.1 hnone capitals List.mem_cons_self)]

theorem lowerChar_of_ascii (h : c.toNat < 128) : lowerChar c = [c.toLower] := by
  have hascii : ∀ code < 128,
      Char.ofNat (if capitals.covers code then capitals.move code else code) =
        (Char.ofNat code).toLower := by
    decide +kernel
  have hdotted : c.toNat ≠ 0x130 := by omega
  rw [lowerChar, if_neg hdotted, shiftCode_of_ascii h, hascii c.toNat h, Char.ofNat_toNat]

theorem exists_mem_lowerChar (h : 128 ≤ c.toNat) :
    ∃ d ∈ lowerChar c, 128 ≤ d.toNat ∨ d = 'k' := by
  unfold lowerChar
  split
  · exact ⟨Char.ofNat 0x307, by simp, .inl (by decide)⟩
  refine ⟨_, List.mem_singleton_self _, ?_⟩
  unfold shiftCode
  split
  · next run hfind =>
    have hcovers := List.find?_some (p := fun run : CaseRun => run.covers c.toNat) hfind
    obtain ⟨hfirst, hlast⟩ := CaseRun.bounds_of_covers hcovers
    obtain rfl | ⟨-, havoids | ⟨hone, himage⟩⟩ :=
      cases_of_mem_lowerRuns run (List.mem_of_find?_eq_some hfind)
    · exact absurd (Nat.le_trans h hlast) (by decide)
    · exact .inl (havoids.le_toNat hcovers)
    · have hcode : c.toNat = run.last := by omega
      exact .inr (hcode ▸ himage)
  · exact .inl (by rwa [Char.ofNat_toNat])

theorem toLower_of_not_ascii (h : 128 ≤ c.toNat) : c.toLower = c := by
  have hcapital : ¬(c.val ≥ 'A'.val ∧ c.val ≤ 'Z'.val) := by
    rintro ⟨-, hz⟩
    have hle : c.toNat ≤ 'Z'.toNat := hz
    exact absurd (Nat.le_trans h hle) (by decide)
  exact dif_neg hcapital

theorem lowerFrom_cons_of_ascii (h : c.toNat < 128) :
    lowerFrom before (c :: rest) = c.toLower :: lowerFrom (c :: before) rest := by
  have hsigma : c ≠ 'Σ' := by
    rintro rfl
    exact absurd h (by decide)
  simp only [lowerFrom, if_neg hsigma, lowerChar_of_ascii h, List.singleton_append]

theorem exists_mem_lowerFrom_cons (before rest : List Char) (h : 128 ≤ c.toNat) :
    ∃ d ∈ lowerFrom before (c :: rest), 128 ≤ d.toNat ∨ d = 'k' := by
  unfold lowerFrom
  simp only [List.mem_append]
  split
  · split
    · exact ⟨'ς', .inl (List.mem_singleton_self _), .inl (by decide)⟩
    · exact ⟨'σ', .inl (List.mem_singleton_self _), .inl (by decide)⟩
  · obtain ⟨d, hd, himage⟩ := exists_mem_lowerChar h
    exact ⟨d, .inl hd, himage⟩

/-- A text becomes a word in ASCII without a `k` only by its ASCII letters, wherever they stand. -/
theorem lowerFrom_eq_iff {text word : List Char} (hw : ∀ d ∈ word, d.toNat < 128 ∧ d ≠ 'k') :
    lowerFrom before text = word ↔ text.map Char.toLower = word := by
  induction text generalizing before word with
  | nil => rfl
  | cons c rest ih =>
    rcases Nat.lt_or_ge c.toNat 128 with hlt | hle
    · rw [lowerFrom_cons_of_ascii hlt, List.map_cons]
      cases word with
      | nil => simp
      | cons d word =>
        rw [List.cons_eq_cons, List.cons_eq_cons, ih fun e he => hw e (List.mem_cons_of_mem _ he)]
    · -- on either side the word would hold what the character becomes
      constructor
      · rintro rfl
        obtain ⟨d, hd, himage⟩ := exists_mem_lowerFrom_cons before rest hle
        obtain ⟨hascii, hk⟩ := hw d hd
        exact absurd himage (not_or.2 ⟨Nat.not_le.2 hascii, hk⟩)
      · rintro rfl
        have hmem : c.toLower ∈ (c :: rest).map Char.toLower := List.mem_cons_self
        rw [toLower_of_not_ascii hle] at hmem
        exact absurd (hw c hmem).1 (Nat.not_lt.2 hle)

variable {text word : String}

/-- Texts that are equal up to the case of ASCII letters. -/
def AsciiVariant (text word : String) : Prop :=
  text.toList.map Char.toLower = word.toList.map Char.toLower

instance (text word : String) : Decidable (AsciiVariant text word) :=
  inferInstanceAs (Decidable (_ = _))

/-- A word in ASCII that has neither capitals nor the letter `k`. -/
def IsPlain (word : String) : Prop :=
  ∀ c ∈ word.toList, (c.toNat < 128 ∧ c ≠ 'k') ∧ c.toLower = c

instance (word : String) : Decidable (IsPlain word) := List.decidableBAll _ _

theorem IsPlain.map_toLower (h : IsPlain word) : word.toList.map Char.toLower = word.toList := by
  rw [List.map_congr_left fun c hc => (h c hc).2, List.map_id']

theorem lowerText_eq_iff (hw : IsPlain word) : lowerText text = word ↔ AsciiVariant text word := by
  rw [AsciiVariant, hw.map_toLower, ← String.toList_inj, lowerText, String.toList_ofList]
  exact lowerFrom_eq_iff fun d hd => (hw d hd).1

/-- The letter `k` has a look-alike. -/
example : lowerText "\u212aeep" = "keep" ∧ ¬AsciiVariant "\u212aeep" "keep" := by
  decide +kernel

theorem AsciiVariant.ascii (h : AsciiVariant text word) (hw : IsPlain word) :
    ∀ c ∈ text.toList, c.toNat < 128 := by
  intro c hc
  have hmem : c.toLower ∈ text.toList.map Char.toLower := List.mem_map_of_mem hc
  rw [h, hw.map_toLower] at hmem
  rcases Nat.lt_or_ge c.toNat 128 with hlt | hle
  · exact hlt
  · rw [toLower_of_not_ascii hle] at hmem
    exact (hw c hmem).1.1

end Unicode

open Unicode

variable {text status : String} {outcome : Outcome}

theorem Verb.isPlain_name (verb : Verb) : IsPlain verb.name := by
  cases verb <;> decide

theorem Criteria.isPlain_name (c : Criteria) : IsPlain c.name := by
  cases c <;> decide

namespace Outcome

def status? : Outcome → Option String
  | .ruleSuccess => some "rule_succeeds"
  | .ruleFail => some "rule_fails"
  | _ => none

theorem isPlain_of_status? (h : outcome.status? = some status) : IsPlain status := by
  cases outcome <;> cases h <;> decide

theorem ofStatus?_eq_some_iff :
    ofStatus? text = some outcome ↔ outcome.status? = some (lowerText text) := by
  unfold ofStatus?
  generalize lowerText text = folded
  constructor
  · intro h
    split at h <;> cases h <;> rfl
  · intro h
    cases outcome <;> cases h <;> rfl

theorem ofStatus?_iff_asciiVariant :
    ofStatus? text = some outcome ↔
      ∃ status, outcome.status? = some status ∧ AsciiVariant text status := by
  rw [ofStatus?_eq_some_iff]
  constructor
  · intro h
    exact ⟨_, h, (lowerText_eq_iff (isPlain_of_status? h)).1 rfl⟩
  · rintro ⟨status, hs, hv⟩
    rw [(lowerText_eq_iff (isPlain_of_status? hs)).2 hv, hs]

theorem ofStatus?_eq_none_iff :
    ofStatus? text = none ↔
      ¬(AsciiVariant text "rule_succeeds" ∨ AsciiVariant text "rule_fails") := by
  have hnone : ofStatus? text = none ↔ ¬∃ outcome, ofStatus? text = some outcome := by
    rw [not_exists, Option.eq_none_iff_forall_ne_some]
  rw [hnone, ofStatus?_isSome_iff, ← lowerText_eq_iff (by decide), ← lowerText_eq_iff (by decide)]
  simp

end Outcome

namespace Statement

variable {s : Statement} {ctx : Context}

def RefusesStatus (s : Statement) (ctx : Context) : Prop :=
  ∃ name, (s.execute ctx).1 = .error (.statement (.unknownStatus name))

theorem criteria_ne_unknownStatus {verb : Verb} {index : Nat} {bindings : Bindings} {name : String} :
    s.criteria verb index bindings ≠ .error (.statement (.unknownStatus name)) := by
  have hcriteria : FailsAs (· ≠ .statement (.unknownStatus name))
      (s.criteria verb index bindings) := by
    refine FailsAs.bind (FailsAs.bind (FailsAs.bind ?item fun item => ?operand) fun value => ?kind)
      fun word => ?word
    case item =>
      unfold item
      split
      · exact .ok _
      · exact .error nofun
    case operand =>
      cases Operand.ofValue item with
      | constant value => exact .ok value
      | reference r =>
        intro e he
        obtain ⟨fault, rfl⟩ := Reference.resolve_error he
        exact nofun
    case kind =>
      split
      · exact .pure _
      · exact .throw nofun
    case word =>
      split
      · exact .pure _
      · exact .throw nofun
  exact fun h => hcriteria _ h rfl

theorem execute_exit_of_none (hv : s.verb = .ok .exit)
    (hs : s.Yields ctx.bindings 1 (.string text)) (ho : Outcome.ofStatus? text = none) :
    s.execute ctx = (.error (.statement (.unknownStatus (lowerText text))), ctx) := by
  have heffect : s.effect ctx = .error (.statement (.unknownStatus (lowerText text))) := by
    rw [effect_of_verb hv]
    simp only [verbEffect, string_eq_ok_iff.2 hs, ho, bind, Except.bind]
    rfl
  rw [execute, heffect]

theorem execute_exit_of_some (hv : s.verb = .ok .exit)
    (hs : s.Yields ctx.bindings 1 (.string text)) (ho : Outcome.ofStatus? text = some outcome) :
    s.execute ctx = ((s.criteria .exit 2 ctx.bindings).map fun c =>
      if c.holds ctx.success then outcome else .statementContinue, ctx) := by
  have heffect : s.effect ctx = (s.criteria .exit 2 ctx.bindings).map fun c =>
      .flow (if c.holds ctx.success then outcome else .statementContinue) := by
    rw [effect_of_verb hv]
    simp only [verbEffect, string_eq_ok_iff.2 hs, ho, bind, Except.bind]
    rfl
  rw [execute, heffect]
  rcases s.criteria .exit 2 ctx.bindings with e | c <;> rfl

theorem refusesStatus_iff (hv : s.verb = .ok .exit)
    (hs : s.Yields ctx.bindings 1 (.string text)) :
    s.RefusesStatus ctx ↔ Outcome.ofStatus? text = none := by
  constructor
  · rintro ⟨name, hname⟩
    rcases ho : Outcome.ofStatus? text with _ | outcome
    · rfl
    · rw [execute_exit_of_some hv hs ho] at hname
      rcases hc : s.criteria .exit 2 ctx.bindings with e | c
      · rw [hc] at hname
        cases hname
        exact absurd hc criteria_ne_unknownStatus
      · rw [hc] at hname
        cases hname
  · intro ho
    exact ⟨_, congrArg Prod.fst (execute_exit_of_none hv hs ho)⟩

end Statement

/-- Verbs, criteria and exit statuses are recognised by their names up to the case of ASCII letters, and
by nothing else: a text with any other character names none of them. -/
theorem keywords_iff_asciiVariant (text : String) :
    (∀ verb, Verb.ofName? text = some verb ↔ AsciiVariant text verb.name) ∧
    (∀ c, Criteria.ofName? text = some c ↔ AsciiVariant text c.name) ∧
    (∀ outcome, Outcome.ofStatus? text = some outcome ↔
      ∃ status, outcome.status? = some status ∧ AsciiVariant text status) ∧
    (∀ (s : Statement) (ctx : Context), s.verb = .ok .exit →
      s.Yields ctx.bindings 1 (.string text) →
      (s.RefusesStatus ctx ↔
        ¬(AsciiVariant text "rule_succeeds" ∨ AsciiVariant text "rule_fails"))) ∧
    ((∃ c ∈ text.toList, 128 ≤ c.toNat) →
      Verb.ofName? text = none ∧ Criteria.ofName? text = none ∧ Outcome.ofStatus? text = none) := by
  have hverb (verb : Verb) : Verb.ofName? text = some verb ↔ AsciiVariant text verb.name :=
    Verb.ofName?_eq_some_iff.trans (lowerText_eq_iff verb.isPlain_name)
  have hcriteria (c : Criteria) : Criteria.ofName? text = some c ↔ AsciiVariant text c.name :=
    Criteria.ofName?_eq_some_iff.trans (lowerText_eq_iff c.isPlain_name)
  refine ⟨hverb, hcriteria, fun _ => Outcome.ofStatus?_iff_asciiVariant, fun s ctx hv hs => ?_, ?_⟩
  · rw [Statement.refusesStatus_iff hv hs, Outcome.ofStatus?_eq_none_iff]
  · rintro ⟨c, hc, hle⟩
    have hforeign {word : String} (hw : IsPlain word) : ¬AsciiVariant text word :=
      fun h => absurd (h.ascii hw c hc) (Nat.not_lt.2 hle)
    refine ⟨?_, ?_, ?_⟩
    · exact Option.eq_none_iff_forall_ne_some.2 fun verb h =>
        hforeign verb.isPlain_name ((hverb verb).1 h)
    · exact Option.eq_none_iff_forall_ne_some.2 fun c h =>
        hforeign c.isPlain_name ((hcriteria c).1 h)
    · rw [Outcome.ofStatus?_eq_none_iff, not_or]
      exact ⟨hforeign (by decide), hforeign (by decide)⟩

theorem keywords_iff_asciiVariant_capitals :
    let s : Statement := ⟨[.string "EXIT", .string "Rule_FAILS", .string "$when"]⟩
    let ctx : Context := ⟨[("when", .string "ALWAYS")], false⟩
    Verb.ofName? "REGEXP_Replace" = some .regexpReplace ∧
      Criteria.ofName? "If_Not_SUCCESS" = some .ifNotSuccess ∧
      ¬s.RefusesStatus ctx ∧ s.execute ctx = (.ok .ruleFail, ctx) ∧
      Verb.ofName? "jo\u0130n" = none ∧ Criteria.ofName? "\uff4eever" = none := by
  intro s ctx
  obtain ⟨hverb, -⟩ := keywords_iff_asciiVariant "REGEXP_Replace"
  obtain ⟨-, hcriteria, -⟩ := keywords_iff_asciiVariant "If_Not_SUCCESS"
  obtain ⟨-, -, -, hexit, -⟩ := keywords_iff_asciiVariant "Rule_FAILS"
  obtain ⟨-, -, -, -, hdotted⟩ := keywords_iff_asciiVariant "jo\u0130n"
  obtain ⟨-, -, -, -, hwide⟩ := keywords_iff_asciiVariant "\uff4eever"
  have hstatus : s.Yields ctx.bindings 1 (.string "Rule_FAILS") := ⟨_, rfl, rfl⟩
  have haccepts : ¬s.RefusesStatus ctx := by
    rw [hexit s ctx rfl hstatus, not_not]
    exact .inr (by decide)
  refine ⟨(hverb _).2 (by decide), (hcriteria _).2 (by decide), haccepts, rfl, ?_, ?_⟩
  · exact (hdotted ⟨Char.ofNat 0x130, by decide, by decide⟩).1
  · exact (hwide ⟨Char.ofNat 0xff4e, by decide, by decide⟩).2.1

end ClaimRules
