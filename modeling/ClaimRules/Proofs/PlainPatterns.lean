import ClaimRules.Proofs.LeftmostMatches
import ClaimRules.Proofs.Splitting

/-! Plain texts as patterns. A text without characters that stand for more than themselves matches where it
occurs, and the pieces between its matches are the text between its occurrences. -/

namespace ClaimRules.Regex

def metacharacters : List Char :=
  ['\\', '.', '+', '*', '?', '(', ')', '|', '[', ']', '\x7b', '\x7d', '^', '$']

def IsPlain (pattern : String) : Prop := ∀ c ∈ pattern.toList, c ∉ metacharacters

def plainLiteral (c : Char) : Expr := .literal ⟨c, false⟩

theorem step_plain {c : Char} (hc : c ∉ metacharacters) (r : Reading) (rest : List Char) :
    r.step c rest = .ok (r.push (plainLiteral c), rest) := by
  rcases hg : readGreed rest with ⟨greedy, after⟩
  simp only [Reading.step, hg]
  split
  case h_13 => rfl
  all_goals exact absurd (by decide) hc

theorem run_plain {chars : List Char} (hplain : ∀ c ∈ chars, c ∉ metacharacters) {fuel : Nat}
    (hfuel : chars.length ≤ fuel) {r : Reading} (hx : r.x = false) :
    r.run fuel chars = .ok ((chars.map plainLiteral).foldl Reading.push r) := by
  induction fuel generalizing r chars with
  | zero =>
    cases List.length_eq_zero_iff.1 (Nat.le_zero.1 hfuel)
    rfl
  | succ fuel ih =>
    have hskip (text : List Char) : skip r.x text = text := by simp [skip, hx]
    rcases chars with _ | ⟨c, rest⟩
    · rw [Reading.run, hskip]
      rfl
    · obtain ⟨hc, hrest⟩ := List.forall_mem_cons.1 hplain
      rw [Reading.run, hskip]
      simp only [step_plain hc]
      exact ih hrest (Nat.le_of_succ_le_succ hfuel) hx

theorem foldl_push (parts : List Expr) (r : Reading) :
    parts.foldl Reading.push r =
      { r with level := { r.level with parts := parts.reverse ++ r.level.parts } } := by
  induction parts generalizing r with
  | nil => rfl
  | cons part rest ih =>
    rw [List.foldl_cons, ih]
    simp [Reading.push]

theorem depthOfParts_plain (chars : List Char) :
    Expr.depthOfParts (chars.map plainLiteral) = 0 := by
  induction chars with
  | nil => rfl
  | cons c chars ih => simp [Expr.depthOfParts, ih, plainLiteral, Expr.depth]

theorem depth_plain (chars : List Char) : (Expr.ofParts (chars.map plainLiteral)).depth ≤ 1 := by
  rcases chars with _ | ⟨c, _ | ⟨d, chars⟩⟩
  · exact Nat.zero_le 1
  · exact Nat.zero_le 1
  · have hdepth : (Expr.ofParts ((c :: d :: chars).map plainLiteral)).depth =
        Expr.depthOfParts ((c :: d :: chars).map plainLiteral) + 1 := rfl
    rw [hdepth, depthOfParts_plain]

theorem parse_eq_ok_iff {pattern : String} {e : Expr} :
    Expr.parse pattern = .ok e ↔
      ∃ r, Reading.start.run pattern.toList.length pattern.toList = .ok r ∧ r.outer = [] ∧
        r.level.expr.depth ≤ depthLimit ∧ r.level.expr = e := by
  rw [Expr.parse, bind_eq_ok_iff]
  refine exists_congr fun r => and_congr_right fun _ => ?_
  by_cases houter : r.outer = []
  · by_cases hdepth : depthLimit < r.level.expr.depth
    · simp [houter, hdepth, Nat.not_le_of_lt hdepth]
    · simp [houter, hdepth, Nat.le_of_not_lt hdepth, pure, Except.pure]
  · simp [houter]

theorem parse_plain {pattern : String} (hplain : IsPlain pattern) :
    Expr.parse pattern = .ok (.ofParts (pattern.toList.map plainLiteral)) := by
  have hrun : Reading.start.run pattern.toList.length pattern.toList =
      .ok ((pattern.toList.map plainLiteral).foldl Reading.push .start) :=
    run_plain hplain (Nat.le_refl _) rfl
  have hexpr : ((pattern.toList.map plainLiteral).foldl Reading.push .start).level.expr =
      .ofParts (pattern.toList.map plainLiteral) := by
    simp [foldl_push, Reading.start, Level.expr]
  have hdepth := depth_plain pattern.toList
  refine parse_eq_ok_iff.2 ⟨_, hrun, by rw [foldl_push]; rfl, ?_, hexpr⟩
  rw [hexpr]
  exact Nat.le_trans hdepth (by decide)

theorem meanings_plain (chars : List Char) :
    Expr.meanings .initial (chars.map plainLiteral) =
      .ok (chars.map fun c => .literal [c], .initial) := by
  induction chars with
  | nil => rfl
  | cons c chars ih =>
    have hmeaning : Expr.meaning .initial (plainLiteral c) = .ok (.literal [c], .initial) := rfl
    simp only [List.map_cons, Expr.meanings, hmeaning, ih]

theorem foldr_prepend_plain (c : Char) (chars : List Char) :
    ((c :: chars).map fun c => Pattern.literal [c]).foldr Pattern.prepend [] =
      [.literal (c :: chars)] := by
  induction chars generalizing c with
  | nil => rfl
  | cons d chars ih =>
    rw [List.map_cons, List.foldr_cons, ih]
    rfl

theorem sequencing_plain (c : Char) (chars : List Char) :
    Pattern.sequencing ((c :: chars).map fun c => .literal [c]) = .literal (c :: chars) := by
  have hflat : ((c :: chars).map fun c => Pattern.literal [c]).flatMap Pattern.flattenSequence =
      (c :: chars).map fun c => Pattern.literal [c] := by
    rw [List.flatMap_map, List.map_eq_flatMap]
    rfl
  rw [Pattern.sequencing, hflat, foldr_prepend_plain]

theorem pattern_plain {chars : List Char} (hne : chars ≠ []) :
    (Expr.ofParts (chars.map plainLiteral)).pattern = .ok (.literal chars) := by
  rcases chars with _ | ⟨c, _ | ⟨d, chars⟩⟩
  · exact absurd rfl hne
  · rfl
  · have hparts : Expr.ofParts ((c :: d :: chars).map plainLiteral) =
        .sequence ((c :: d :: chars).map plainLiteral) := rfl
    rw [hparts, Expr.pattern, Expr.meaning, meanings_plain]
    exact congrArg Except.ok (sequencing_plain c (d :: chars))

theorem compile_plain {pattern : String} (hplain : IsPlain pattern) (hne : pattern ≠ "") :
    compile pattern =
      .ok ⟨[none], (Pattern.literal pattern.toList).program.toArray⟩ := by
  refine compile_eq_ok (p := .literal pattern.toList) ?_
  rw [parse_plain hplain]
  exact pattern_plain (mt String.toList_eq_nil_iff.1 hne)

structure Occurs (text : List Char) (place : Nat) (m : Match) (plain : List Char) : Prop where
  inside : m.Inside text.toArray place
  slice : m.span.slice text = plain
  first : ∀ start, place ≤ start → start < m.span.start → ¬ plain <+: text.drop start

section Occurrences

variable {re : Regex} {pattern : String} {text : List Char} {place : Nat} {m : Match}

theorem occurs_of_matchFrom? (hplain : IsPlain pattern) (hne : pattern ≠ "")
    (hre : compile pattern = .ok re) (h : re.matchFrom? text.toArray place = some m) :
    Occurs text place m pattern.toList := by
  cases (compile_plain hplain hne).symm.trans hre
  have hleft : Pattern.Leftmost text.toArray (.literal pattern.toList) place m :=
    Pattern.leftmost_of_matchFrom? (fun g hg => by cases hg) h
  obtain ⟨hfront, hstop⟩ := hleft.spans
  refine ⟨hleft.inside, ?_, fun start hle hlt hp => hleft.first start _ hle hlt ⟨hp, rfl⟩⟩
  rw [Span.slice, hstop, List.drop_take, Nat.add_sub_cancel_left]
  exact (List.prefix_iff_eq_take.1 hfront).symm

theorem not_prefix_of_matchFrom? (hplain : IsPlain pattern) (hne : pattern ≠ "")
    (hre : compile pattern = .ok re) (h : re.matchFrom? text.toArray place = none) {start : Nat}
    (hle : place ≤ start) : ¬ pattern.toList <+: text.drop start := by
  cases (compile_plain hplain hne).symm.trans hre
  intro hfront
  rcases Nat.lt_or_ge text.length start with hlt | hge
  · rw [List.drop_eq_nil_of_le (Nat.le_of_lt hlt)] at hfront
    exact hne (String.toList_eq_nil_iff.1 (List.prefix_nil.1 hfront))
  · exact Pattern.not_spans_of_matchFrom? (p := .literal pattern.toList) (fun g hg => by cases hg)
      h hle hge _ ⟨hfront, rfl⟩

theorem nextMatch?_plain (hplain : IsPlain pattern) (hne : pattern ≠ "")
    (hre : compile pattern = .ok re) (last : Option Nat) :
    re.nextMatch? text.toArray last = re.matchFrom? text.toArray (last.getD 0) := by
  rcases hm : re.matchFrom? text.toArray (last.getD 0) with _ | m
  · simp only [nextMatch?, hm]
  · have hoccurs := occurs_of_matchFrom? hplain hne hre hm
    have hspan : ¬ (m.span.start = m.span.stop ∧ some m.span.stop = last) := by
      rintro ⟨hempty, -⟩
      refine hne (String.toList_eq_nil_iff.1 ?_)
      rw [← hoccurs.slice, Span.slice, hempty, List.drop_take, Nat.sub_self, List.take_zero]
    simp only [nextMatch?, hm, if_neg hspan]

theorem pieces_plain_of_successive (hplain : IsPlain pattern) (hne : pattern ≠ "")
    (hre : compile pattern = .ok re) {last : Option Nat} {ms : List Match}
    (h : Successive re text.toArray last ms) :
    let pieces := piecesFrom text (last.getD 0) (ms.map Match.span)
    pieces ≠ [] ∧ text.drop (last.getD 0) = pattern.toList.intercalate pieces ∧
      ∀ piece ∈ pieces, ¬ pattern.toList <:+: piece := by
  induction h with
  | @none last hnone =>
    rw [nextMatch?_plain hplain hne hre] at hnone
    refine ⟨List.cons_ne_nil _ _, (List.intercalate_singleton ..).symm,
      List.forall_mem_singleton.2 ?_⟩
    rintro ⟨front, back, hpiece⟩
    refine not_prefix_of_matchFrom? hplain hne hre hnone (Nat.le_add_right _ front.length) ?_
    rw [← List.drop_drop, ← hpiece, List.append_assoc, List.drop_left]
    exact List.prefix_append ..
  | @some last m rest hsome _ ih =>
    rw [nextMatch?_plain hplain hne hre] at hsome
    obtain ⟨hinside, hslice, hfirst⟩ := occurs_of_matchFrom? hplain hne hre hsome
    simp only [Option.getD_some] at ih
    obtain ⟨hrest, htext, hpieces⟩ := ih
    obtain ⟨hcut, hstart, -⟩ := drop_eq_slices hinside
    rw [List.map_cons, piecesFrom]
    refine ⟨List.cons_ne_nil _ _, ?_, List.forall_mem_cons.2 ⟨?_, hpieces⟩⟩
    · rw [List.intercalate_cons_of_ne_nil hrest, ← htext, ← hslice]
      exact hcut
    · -- an occurrence in the piece would start before the match
      rintro ⟨front, back, hpiece⟩
      have hlength := congrArg List.length hpiece
      have hpos := List.length_pos_iff.2 (mt String.toList_eq_nil_iff.1 hne)
      simp only [List.length_append] at hlength
      refine hfirst (last.getD 0 + front.length) (Nat.le_add_right ..) (by omega) ?_
      rw [← List.drop_drop, hcut, ← hpiece]
      simp only [List.append_assoc, List.drop_left, List.prefix_append]

theorem pieces_plain (hplain : IsPlain pattern) (hne : pattern ≠ "")
    (hre : compile pattern = .ok re) (text : List Char) :
    text = pattern.toList.intercalate (re.pieces text) ∧
      ∀ piece ∈ re.pieces text, ¬ pattern.toList <:+: piece :=
  (pieces_plain_of_successive hplain hne hre ((bounded_of_compile hre).successive_matchesIn text)).2

end Occurrences

end ClaimRules.Regex
