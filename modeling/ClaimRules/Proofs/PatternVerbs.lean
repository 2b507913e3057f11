import ClaimRules.Proofs.LeftmostMatches
import ClaimRules.Proofs.Splitting

/-! The verbs that take regular expressions. They accept the same patterns and agree on what matches: where
a search finds nothing, splitting leaves the text whole and replacing leaves it as it is, and so does the
replacement of every match by itself. -/

namespace ClaimRules

namespace Regex

variable {re : Regex} {text : List Char} {place : Nat} {m : Match} {ms : List Match}

theorem matchFrom?_of_nextMatch? {last : Option Nat} (h : re.nextMatch? text.toArray last = some m) :
    ∃ place, re.matchFrom? text.toArray place = some m := by
  unfold nextMatch? at h
  split at h
  · cases h
  · next found hfound =>
    split at h
    · exact ⟨_, h⟩
    · cases h
      exact ⟨_, hfound⟩

theorem Bounded.replaceFrom_slice (h : re.Bounded) {replace : Match → List Char} {last : Option Nat}
    (hreplace : ∀ m ∈ ms, replace m = m.span.slice text) (hs : Successive re text.toArray last ms) :
    replaceFrom replace text (last.getD 0) ms = text.drop (last.getD 0) := by
  induction hs with
  | none => rfl
  | @some last m rest hm _ ih =>
    obtain ⟨hown, hrest⟩ := List.forall_mem_cons.1 hreplace
    obtain ⟨htext, -, -⟩ := drop_eq_slices (h.nextMatch? hm).1
    have hafter := ih hrest
    rw [Option.getD_some] at hafter
    rw [replaceFrom, hown, hafter, ← htext]

theorem exists_matchFrom?_of_successive {last : Option Nat}
    (hs : Successive re text.toArray last ms) (hm : m ∈ ms) :
    ∃ place, re.matchFrom? text.toArray place = some m := by
  induction hs with
  | none => cases hm
  | some h _ ih =>
    rcases List.mem_cons.1 hm with rfl | hm
    · exact matchFrom?_of_nextMatch? h
    · exact ih hm

theorem groupNames_ne_nil_of_compile {pattern : String} (h : compile pattern = .ok re) :
    re.groupNames ≠ [] := by
  obtain ⟨-, p, -, -, rfl⟩ := exists_of_compile h
  exact Pattern.groupNames_ne_nil p

theorem inserts_whole : inserts ['$', '0'] = [.numbered 0] := by
  simp [inserts, readInsert, isGroupChar, Insert.ofName, isDigits, digitsValue]

theorem replaceAll_whole {pattern : String} (h : compile pattern = .ok re) (text : List Char) :
    re.replaceAll text ['$', '0'] = text := by
  have hbounded := bounded_of_compile h
  have hs := hbounded.successive_matchesIn text
  refine hbounded.replaceFrom_slice (fun m hm => ?_) hs
  obtain ⟨place, hplace⟩ := exists_matchFrom?_of_successive hs hm
  have hzero := Pattern.groups_zero (groupNames_ne_nil_of_compile h) hplace
  rw [expansion, inserts_whole, List.flatMap_singleton, Insert.expand, groupText, hzero,
    Option.join_some]

end Regex

namespace Statement

open Regex

variable {s : Statement} {ctx : Context} {r : Reference} {text pattern replacement : String}
  {re : Regex} {fault : Fault}

structure Searches (s : Statement) (bindings : Bindings) (text pattern : String) : Prop where
  verb : s.verb = .ok .regexp
  yieldsText : s.Yields bindings 1 (.string text)
  yieldsPattern : s.Yields bindings 2 (.string pattern)

structure Splits (s : Statement) (bindings : Bindings) (r : Reference) (text pattern : String) :
    Prop where
  verb : s.verb = .ok .split
  target : s.operand? 1 = some (.reference r)
  assignable : r.Assignable bindings
  yieldsText : s.Yields bindings 2 (.string text)
  yieldsPattern : s.Yields bindings 3 (.string pattern)

structure Replaces (s : Statement) (bindings : Bindings) (r : Reference)
    (text pattern replacement : String) : Prop where
  verb : s.verb = .ok .regexpReplace
  target : s.operand? 1 = some (.reference r)
  assignable : r.Assignable bindings
  yieldsText : s.Yields bindings 2 (.string text)
  yieldsPattern : s.Yields bindings 3 (.string pattern)
  yieldsReplacement : s.Yields bindings 4 (.string replacement)

theorem compilePattern_ok (h : compile pattern = .ok re) (verb : Verb) :
    compilePattern verb pattern = .ok re := by
  rw [compilePattern, h]

theorem compilePattern_fault (h : compile pattern = .error fault) (verb : Verb) :
    compilePattern verb pattern = .error (.statement (.badPattern verb pattern fault)) := by
  rw [compilePattern, h]

theorem failsWith_of_badPattern {verb : Verb}
    (h : s.effect ctx = .error (.statement (.badPattern verb pattern fault))) :
    s.FailsWith ctx .invalidValue :=
  ⟨_, by rw [execute, h], rfl⟩

namespace Searches

theorem execute_eq (h : s.Searches ctx.bindings text pattern) (hre : compile pattern = .ok re) :
    s.execute ctx = (searchEffect re text.toList).apply ctx := by
  have heffect : s.effect ctx = .ok (searchEffect re text.toList) :=
    effect_eq_ok_iff.2 ⟨.regexp, h.verb, regexp_iff.2 ⟨text, string_eq_ok_iff.2 h.yieldsText, pattern,
      string_eq_ok_iff.2 h.yieldsPattern, re, compilePattern_ok hre _, rfl⟩⟩
  rw [execute, heffect]

theorem failsWith (h : s.Searches ctx.bindings text pattern) (hf : compile pattern = .error fault) :
    s.FailsWith ctx .invalidValue := by
  have heffect : s.effect ctx = .error (.statement (.badPattern .regexp pattern fault)) := by
    simp only [effect, h.verb, verbEffect, string_eq_ok_iff.2 h.yieldsText,
      string_eq_ok_iff.2 h.yieldsPattern, compilePattern_fault hf, bind, Except.bind]
  exact failsWith_of_badPattern heffect

end Searches

namespace Splits

theorem execute_eq (h : s.Splits ctx.bindings r text pattern) (hre : compile pattern = .ok re) :
    s.execute ctx = (.ok .statementContinue, ⟨(r.assign (.array ((splitText re text.toList).map
      fun p => .string (.ofList p))) ctx.bindings).2, true⟩) :=
  execute_split h.verb h.target h.assignable h.yieldsText h.yieldsPattern hre

theorem failsWith (h : s.Splits ctx.bindings r text pattern) (hf : compile pattern = .error fault) :
    s.FailsWith ctx .invalidValue := by
  have heffect : s.effect ctx = .error (.statement (.badPattern .split pattern fault)) := by
    simp only [effect, h.verb, verbEffect, target_eq_ok_iff.2 h.target,
      string_eq_ok_iff.2 h.yieldsText, string_eq_ok_iff.2 h.yieldsPattern, compilePattern_fault hf,
      bind, Except.bind]
  exact failsWith_of_badPattern heffect

end Splits

namespace Replaces

theorem execute_eq (h : s.Replaces ctx.bindings r text pattern replacement)
    (hre : compile pattern = .ok re) :
    s.execute ctx = (.ok .statementContinue, ⟨(r.assign (.string (.ofList
      (re.replaceAll text.toList replacement.toList))) ctx.bindings).2, true⟩) := by
  have heffect : s.effect ctx =
      .ok (.store r (.string (.ofList (re.replaceAll text.toList replacement.toList)))) :=
    effect_eq_ok_iff.2 ⟨.regexpReplace, h.verb, regexpReplace_iff.2 ⟨text,
      string_eq_ok_iff.2 h.yieldsText, pattern, string_eq_ok_iff.2 h.yieldsPattern, replacement,
      string_eq_ok_iff.2 h.yieldsReplacement, re, compilePattern_ok hre _, r,
      target_eq_ok_iff.2 h.target, rfl⟩⟩
  exact Reference.execute_of_store heffect h.assignable

theorem failsWith (h : s.Replaces ctx.bindings r text pattern replacement)
    (hf : compile pattern = .error fault) : s.FailsWith ctx .invalidValue := by
  have heffect : s.effect ctx = .error (.statement (.badPattern .regexpReplace pattern fault)) := by
    simp only [effect, h.verb, verbEffect, string_eq_ok_iff.2 h.yieldsText,
      string_eq_ok_iff.2 h.yieldsPattern, string_eq_ok_iff.2 h.yieldsReplacement,
      compilePattern_fault hf, bind, Except.bind]
  exact failsWith_of_badPattern heffect

end Replaces

theorem matchesIn_of_searchEffect
    (h : ((searchEffect re text.toList).apply ctx).2.success = false) :
    re.matchesIn text.toList = [] := by
  unfold searchEffect at h
  rcases hfirst : re.firstMatch? text.toList with _ | m
  · rw [firstMatch?_eq_head?] at hfirst
    exact List.head?_eq_none_iff.1 hfirst
  · rw [hfirst] at h
    cases h

/-- Search, split and replacement fail alike, with an invalid value, on what is no pattern. If the
search finds nothing, the others leave the text as it is; so does a replacement by the match. -/
theorem pattern_verbs_agree {s₁ s₂ s₃ : Statement} {ctx₁ ctx₂ ctx₃ : Context} {r₂ r₃ : Reference}
    (h₁ : s₁.Searches ctx₁.bindings text pattern) (h₂ : s₂.Splits ctx₂.bindings r₂ text pattern)
    (h₃ : s₃.Replaces ctx₃.bindings r₃ text pattern replacement) :
    (IsPattern pattern ∧ (s₁.execute ctx₁).1 = .ok .statementContinue ∧
          (s₂.execute ctx₂).1 = .ok .statementContinue ∧
          (s₃.execute ctx₃).1 = .ok .statementContinue ∨
        ¬ IsPattern pattern ∧ s₁.FailsWith ctx₁ .invalidValue ∧ s₂.FailsWith ctx₂ .invalidValue ∧
          s₃.FailsWith ctx₃ .invalidValue) ∧
      ((s₁.execute ctx₁).1 = .ok .statementContinue → (s₁.execute ctx₁).2.success = false →
        s₂.execute ctx₂ = (.ok .statementContinue,
            ⟨(r₂.assign (.array [.string text]) ctx₂.bindings).2, true⟩) ∧
          s₃.execute ctx₃ = (.ok .statementContinue,
            ⟨(r₃.assign (.string text) ctx₃.bindings).2, true⟩)) ∧
      (IsPattern pattern → replacement = "$0" →
        s₃.execute ctx₃ = (.ok .statementContinue,
          ⟨(r₃.assign (.string text) ctx₃.bindings).2, true⟩)) := by
  rcases hre : compile pattern with fault | re
  · -- none of the verbs gets as far as the text
    have hnot : ¬ IsPattern pattern := fun ⟨re, h⟩ => nomatch hre.symm.trans h
    obtain ⟨e, he, hkind⟩ := h₁.failsWith hre
    refine ⟨.inr ⟨hnot, ⟨e, he, hkind⟩, h₂.failsWith hre, h₃.failsWith hre⟩, fun hok => ?_,
      fun h => absurd h hnot⟩
    rw [he] at hok
    cases hok
  · have hsearch := h₁.execute_eq hre
    have hsplit := h₂.execute_eq hre
    have hreplace := h₃.execute_eq hre
    have hok : (s₁.execute ctx₁).1 = .ok .statementContinue := by
      rw [hsearch, searchEffect]
      split <;> rfl
    refine ⟨.inl ⟨⟨re, hre⟩, hok, by rw [hsplit], by rw [hreplace]⟩, fun _ hflag => ?_, ?_⟩
    · rw [hsearch] at hflag
      have hnone := matchesIn_of_searchEffect hflag
      rw [splitText_whole (.inr hnone)] at hsplit
      have hsame : re.replaceAll text.toList replacement.toList = text.toList := by
        rw [replaceAll, hnone]
        rfl
      rw [hsame, String.ofList_toList] at hreplace
      exact ⟨by simpa using hsplit, hreplace⟩
    · rintro - rfl
      have hsame : re.replaceAll text.toList "$0".toList = text.toList := replaceAll_whole hre _
      rw [hsame, String.ofList_toList] at hreplace
      exact hreplace

theorem pattern_verbs_agree_optional :
    let ctx : Context := ⟨[("text", .string "abb")], true⟩
    let search (pattern : String) : Statement :=
      ⟨[.string "regexp", .string "$text", .string pattern]⟩
    let split (pattern : String) : Statement :=
      ⟨[.string "split", .string "$out", .string "$text", .string pattern]⟩
    let replace (pattern replacement : String) : Statement :=
      ⟨[.string "regexp_replace", .string "$out", .string "$text", .string pattern,
        .string replacement]⟩
    let stored (value : Value) : Context := ⟨[("text", .string "abb"), ("out", value)], true⟩
    (search "(b*)d").execute ctx = (.ok .statementContinue, ⟨[("text", .string "abb"),
        ("regexp_array", .array []), ("regexp_map", .map [])], false⟩) ∧
      (split "(b*)d").execute ctx = (.ok .statementContinue, stored (.array [.string "abb"])) ∧
      (replace "(b*)d" "$1!").execute ctx = (.ok .statementContinue, stored (.string "abb")) ∧
      (replace "b*" "$0").execute ctx = (.ok .statementContinue, stored (.string "abb")) := by
  intro ctx search split replace stored
  have hsearch (pattern : String) (h : Operand.ofValue (.string pattern) = .constant (.string pattern)) :
      (search pattern).Searches ctx.bindings "abb" pattern :=
    ⟨rfl, ⟨.reference ⟨"text", none⟩, rfl, rfl⟩, ⟨.constant (.string pattern), congrArg some h, rfl⟩⟩
  have hsplit (pattern : String) (h : Operand.ofValue (.string pattern) = .constant (.string pattern)) :
      (split pattern).Splits ctx.bindings ⟨"out", none⟩ "abb" pattern :=
    ⟨rfl, rfl, .inl rfl, ⟨.reference ⟨"text", none⟩, rfl, rfl⟩,
      ⟨.constant (.string pattern), congrArg some h, rfl⟩⟩
  have hreplace (pattern replacement : String)
      (h : Operand.ofValue (.string pattern) = .constant (.string pattern))
      (h' : Operand.ofValue (.string replacement) = .constant (.string replacement)) :
      (replace pattern replacement).Replaces ctx.bindings ⟨"out", none⟩ "abb" pattern replacement :=
    ⟨rfl, rfl, .inl rfl, ⟨.reference ⟨"text", none⟩, rfl, rfl⟩,
      ⟨.constant (.string pattern), congrArg some h, rfl⟩,
      ⟨.constant (.string replacement), congrArg some h', rfl⟩⟩
  have hfound : (search "(b*)d").execute ctx = (.ok .statementContinue, ⟨[("text", .string "abb"),
      ("regexp_array", .array []), ("regexp_map", .map [])], false⟩) := rfl
  obtain ⟨-, hnone, -⟩ := pattern_verbs_agree (hsearch "(b*)d" rfl) (hsplit "(b*)d" rfl)
    (hreplace "(b*)d" "$1!" rfl rfl)
  obtain ⟨-, -, hwhole⟩ := pattern_verbs_agree (hsearch "b*" rfl) (hsplit "b*" rfl)
    (hreplace "b*" "$0" rfl rfl)
  obtain ⟨hsplit', hreplace'⟩ := hnone (by rw [hfound]) (by rw [hfound])
  exact ⟨hfound, hsplit', hreplace', hwhole ⟨_, rfl⟩ rfl⟩

end Statement
end ClaimRules
