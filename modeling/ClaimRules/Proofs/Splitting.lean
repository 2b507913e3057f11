import ClaimRules.Proofs.Addressing
import ClaimRules.Proofs.MatchPlaces
import Mathlib.Data.List.DropRight

/-! Splitting of texts. The matches of a regular expression cut a text into pieces; of these only
empty ones at the two ends are dropped. -/

namespace ClaimRules

namespace Regex

/-- The text at a place consists of a first piece, what the first span covers, a second piece, and
so on; the pieces are those of the list. -/
inductive Cuts : Nat → List Char → List Span → List (List Char) → Prop where
  | last (place : Nat) (piece : List Char) : Cuts place piece [] [piece]
  | next {place : Nat} {piece found rest : List Char} {spans : List Span}
      {pieces : List (List Char)}
      (h : Cuts (place + piece.length + found.length) rest spans pieces) :
      Cuts place (piece ++ found ++ rest)
        (⟨place + piece.length, place + piece.length + found.length⟩ :: spans) (piece :: pieces)

variable {re : Regex} {text : List Char} {ms : List Match} {m : Match}

theorem drop_eq_slices {place : Nat} (h : m.Inside text.toArray place) :
    text.drop place =
        Span.slice ⟨place, m.span.start⟩ text ++ m.span.slice text ++ text.drop m.span.stop ∧
      place + (Span.slice ⟨place, m.span.start⟩ text).length = m.span.start ∧
      m.span.start + (m.span.slice text).length = m.span.stop := by
  obtain ⟨hplace, hstart, hstop⟩ := h
  rw [List.size_toArray] at hstop
  have hcut {a b : Nat} (hab : a ≤ b) :
      text.drop a = (text.take b).drop a ++ text.drop b := by
    rw [List.drop_take, ← Nat.add_sub_cancel' hab, Nat.add_sub_cancel_left, ← List.drop_drop,
      List.take_append_drop]
  refine ⟨?_, ?_, ?_⟩
  · rw [hcut hplace, hcut hstart, List.append_assoc]
    rfl
  · simp only [Span.slice, List.length_drop, List.length_take]
    omega
  · simp only [Span.slice, List.length_drop, List.length_take]
    omega

theorem Bounded.cuts (h : re.Bounded) {last : Option Nat}
    (hs : Successive re text.toArray last ms) :
    Cuts (last.getD 0) (text.drop (last.getD 0)) (ms.map Match.span)
      (piecesFrom text (last.getD 0) (ms.map Match.span)) := by
  induction hs with
  | none => exact .last ..
  | @some last m rest hm _ ih =>
    obtain ⟨htext, hstart, hstop⟩ := drop_eq_slices (h.nextMatch? hm).1
    rw [Option.getD_some] at ih
    rw [← hstop, ← hstart] at ih
    have hcut := ih.next
    rw [hstart, hstop, ← htext] at hcut
    exact hcut

theorem Cuts.length_le {place : Nat} {spans : List Span} {pieces : List (List Char)}
    {piece : List Char} (h : Cuts place text spans pieces) (hp : piece ∈ pieces) :
    piece.length ≤ text.length := by
  induction h with
  | last => exact Nat.le_of_eq (congrArg _ (List.mem_singleton.1 hp))
  | next _ ih =>
    simp only [List.length_append]
    rcases List.mem_cons.1 hp with rfl | hp
    · omega
    · exact Nat.le_trans (ih hp) (Nat.le_add_left ..)

theorem Bounded.cuts_matchesIn (h : re.Bounded) (text : List Char) :
    Cuts 0 text ((re.matchesIn text).map Match.span) (re.pieces text) :=
  h.cuts (h.successive_matchesIn text)

theorem firstMatch?_eq_head? (re : Regex) (text : List Char) :
    re.firstMatch? text = (re.matchesIn text).head? := by
  have hnext : re.nextMatch? text.toArray none = re.firstMatch? text := by
    unfold nextMatch? firstMatch?
    rw [Option.getD_none]
    rcases re.matchFrom? text.toArray 0 with _ | m <;> simp
  rw [matchesIn, matchesAfter_succ, hnext]
  rcases re.firstMatch? text with _ | m <;> rfl

end Regex

namespace Statement

open Regex

variable {re : Regex} {text : List Char}

theorem exists_replicate_rdropWhile (pieces : List (List Char)) :
    ∃ n, pieces = pieces.rdropWhile List.isEmpty ++ List.replicate n [] := by
  refine ⟨(pieces.rtakeWhile List.isEmpty).length, ?_⟩
  have hempty : pieces.rtakeWhile List.isEmpty =
      List.replicate (pieces.rtakeWhile List.isEmpty).length [] := by
    refine List.eq_replicate_iff.2 ⟨rfl, fun piece hp => ?_⟩
    exact List.isEmpty_iff.1 (List.mem_rtakeWhile_imp hp)
  rw [← hempty, List.rdropWhile_append_rtakeWhile]

theorem getLast?_rdropWhile_ne (pieces : List (List Char)) :
    (pieces.rdropWhile List.isEmpty).getLast? ≠ some [] := by
  intro h
  have hne : pieces.rdropWhile List.isEmpty ≠ [] := fun hnil => by simp [hnil] at h
  have hlast : (pieces.rdropWhile List.isEmpty).getLast hne = [] :=
    Option.some.inj ((List.getLast?_eq_some_getLast hne).symm.trans h)
  exact List.rdropWhile_last_not _ _ hne (List.isEmpty_iff.2 hlast)

theorem splitText_whole (h : text = [] ∨ re.matchesIn text = []) : splitText re text = [text] := by
  rcases h with rfl | h
  · rfl
  · unfold splitText
    rw [firstMatch?_eq_head?, h]
    cases text <;> rfl

def leadingPiece (spans : List Span) : List (List Char) :=
  if spans.head? = some ⟨0, 0⟩ then [[]] else []

theorem leadingPiece_cons (s : Span) (rest : List Span) :
    leadingPiece (s :: rest) = if s = ⟨0, 0⟩ then [[]] else [] := by
  simp [leadingPiece]

theorem splitText_eq_rdropWhile (ht : text ≠ []) (hm : re.matchesIn text ≠ []) :
    ∃ rest, re.pieces text = leadingPiece ((re.matchesIn text).map Match.span) ++ rest ∧
      splitText re text = rest.rdropWhile List.isEmpty := by
  obtain ⟨m, ms, hms⟩ := List.exists_cons_of_ne_nil hm
  obtain ⟨c, chars, rfl⟩ := List.exists_cons_of_ne_nil ht
  have hfirst : re.firstMatch? (c :: chars) = some m := by
    rw [firstMatch?_eq_head?, hms]
    rfl
  have hspan : m.span = ⟨0, 0⟩ ↔ m.span.start = 0 ∧ m.span.stop = 0 := by
    rcases m.span with ⟨start, stop⟩
    simp
  rw [hms, List.map_cons, leadingPiece_cons]
  by_cases hempty : m.span = ⟨0, 0⟩
  · -- nothing stands in front of the first match
    have hpieces : re.pieces (c :: chars) =
        [] :: piecesFrom (c :: chars) 0 (ms.map Match.span) := by
      rw [pieces, hms, List.map_cons, hempty]
      rfl
    refine ⟨_, hpieces.trans (by rw [if_pos hempty]; rfl), ?_⟩
    simp [splitText, hfirst, hpieces, hempty, List.rdropWhile]
  · refine ⟨re.pieces (c :: chars), by rw [if_neg hempty]; rfl, ?_⟩
    simp only [splitText, hfirst, ← and_assoc, ← hspan, hempty, false_and, if_false]
    rfl

theorem pieces_eq_splitText (ht : text ≠ []) (hm : re.matchesIn text ≠ []) :
    (splitText re text).getLast? ≠ some [] ∧ ∃ n, re.pieces text =
      leadingPiece ((re.matchesIn text).map Match.span) ++ splitText re text ++
        List.replicate n [] := by
  obtain ⟨rest, hleading, hsplit⟩ := splitText_eq_rdropWhile ht hm
  obtain ⟨n, hn⟩ := exists_replicate_rdropWhile rest
  rw [hsplit, hleading]
  exact ⟨getLast?_rdropWhile_ne rest, n, by rw [List.append_assoc, ← hn]⟩

theorem filter_leadingPiece (spans : List Span) :
    (leadingPiece spans).filter (!·.isEmpty) = [] := by
  unfold leadingPiece
  split <;> rfl

theorem filter_splitText (h : re.Bounded) (text : List Char) :
    (splitText re text).filter (!·.isEmpty) = (re.pieces text).filter (!·.isEmpty) := by
  by_cases ht : text = []
  · subst ht
    have hpieces : (re.pieces []).filter (!·.isEmpty) = [] := by
      refine List.filter_eq_nil_iff.2 fun piece hp => ?_
      have hle : piece.length ≤ 0 := (h.cuts_matchesIn []).length_le hp
      simp [List.eq_nil_of_length_eq_zero (Nat.le_zero.1 hle)]
    rw [hpieces]
    rfl
  by_cases hm : re.matchesIn text = []
  · rw [splitText_whole (.inr hm), pieces, hm]
    rfl
  obtain ⟨-, n, hn⟩ := pieces_eq_splitText ht hm
  rw [hn, List.filter_append, List.filter_append, filter_leadingPiece, List.nil_append]
  simp

theorem execute_split {s : Statement} {r : Reference} {ctx : Context} {text pattern : String}
    (hv : s.verb = .ok .split) (hr : s.operand? 1 = some (.reference r))
    (ha : r.Assignable ctx.bindings) (ht : s.Yields ctx.bindings 2 (.string text))
    (hp : s.Yields ctx.bindings 3 (.string pattern)) (hre : Regex.compile pattern = .ok re) :
    s.execute ctx = (.ok .statementContinue, ⟨(r.assign (.array ((splitText re text.toList).map
      fun p => .string (.ofList p))) ctx.bindings).2, true⟩) := by
  have heffect : s.effect ctx = .ok (.store r (.array ((splitText re text.toList).map
      fun p => .string (.ofList p)))) :=
    effect_eq_ok_iff.2 ⟨.split, hv, split_iff.2 ⟨r, target_eq_ok_iff.2 hr, text,
      string_eq_ok_iff.2 ht, pattern, string_eq_ok_iff.2 hp, re, by rw [compilePattern, hre], rfl⟩⟩
  exact Reference.execute_of_store heffect ha

/-- What is stored are the pieces that all matches, one after the other, cut the text into. Without
a match, or if it is empty, the text stays in one piece. Otherwise a piece in front of an empty
match at the start is dropped, and so are all empty pieces at the end: nothing is lost that is not
empty. -/
theorem split_stores_pieces {s : Statement} {r : Reference} {ctx : Context} {text pattern : String}
    (hv : s.verb = .ok .split) (hr : s.operand? 1 = some (.reference r))
    (ha : r.Assignable ctx.bindings) (ht : s.Yields ctx.bindings 2 (.string text))
    (hp : s.Yields ctx.bindings 3 (.string pattern)) (hre : Regex.compile pattern = .ok re) :
    let ms := re.matchesIn text.toList
    let spans := ms.map Match.span
    let pieces := re.pieces text.toList
    let kept := splitText re text.toList
    s.execute ctx = (.ok .statementContinue,
        ⟨(r.assign (.array (kept.map fun p => .string (.ofList p))) ctx.bindings).2, true⟩) ∧
      Successive re text.toList.toArray none ms ∧ Cuts 0 text.toList spans pieces ∧
      (text = "" ∨ ms = [] → kept = [text.toList]) ∧
      (text ≠ "" → ms ≠ [] → ∃ n, pieces = leadingPiece spans ++ kept ++ List.replicate n []) ∧
      (text ≠ "" → kept.getLast? ≠ some []) ∧
      kept.filter (!·.isEmpty) = pieces.filter (!·.isEmpty) := by
  intro ms spans pieces kept
  have hbounded : re.Bounded := bounded_of_compile hre
  have htext : text = "" ↔ text.toList = [] := String.toList_eq_nil_iff.symm
  refine ⟨execute_split hv hr ha ht hp hre, hbounded.successive_matchesIn _,
    hbounded.cuts_matchesIn _, fun h => splitText_whole (h.imp_left htext.1),
    fun hne hms => (pieces_eq_splitText (mt htext.2 hne) hms).2, fun hne => ?_,
    filter_splitText hbounded _⟩
  by_cases hms : ms = []
  · have hkept : kept = [text.toList] := splitText_whole (.inr hms)
    rw [hkept]
    simpa using mt htext.2 hne
  · exact (pieces_eq_splitText (mt htext.2 hne) hms).1

theorem split_stores_pieces_optional :
    let re : Regex := ⟨[none], #[.mark 0, .branch 2 4, .take [⟨98, 98⟩], .jump 1, .mark 1, .accept]⟩
    let s : Statement := ⟨[.string "split", .string "$out", .string "$text", .string "b*"]⟩
    let ctx : Context := ⟨[("text", .string "abbcb")], false⟩
    Regex.compile "b*" = .ok re ∧
      s.execute ctx = (.ok .statementContinue, ⟨[("text", .string "abbcb"),
        ("out", .array [.string "a", .string "c"])], true⟩) ∧
      Cuts 0 ['a', 'b', 'b', 'c', 'b'] [⟨0, 0⟩, ⟨1, 3⟩, ⟨4, 5⟩] [[], ['a'], ['c'], []] := by
  intro re s ctx
  have hre : Regex.compile "b*" = .ok re := rfl
  have hr : s.operand? 1 = some (.reference ⟨"out", none⟩) := rfl
  have ha : (⟨"out", none⟩ : Reference).Assignable ctx.bindings := .inl rfl
  have ht : s.Yields ctx.bindings 2 (.string "abbcb") := ⟨.reference ⟨"text", none⟩, rfl, rfl⟩
  have hp : s.Yields ctx.bindings 3 (.string "b*") := ⟨.constant (.string "b*"), rfl, rfl⟩
  obtain ⟨hexecute, -, hcuts, -⟩ := split_stores_pieces rfl hr ha ht hp hre
  have hkept : splitText re "abbcb".toList = [['a'], ['c']] := by decide +kernel
  have hpieces : re.pieces "abbcb".toList = [[], ['a'], ['c'], []] := by decide +kernel
  have hspans : (re.matchesIn "abbcb".toList).map Match.span = [⟨0, 0⟩, ⟨1, 3⟩, ⟨4, 5⟩] := by
    decide +kernel
  rw [hkept] at hexecute
  rw [hpieces, hspans] at hcuts
  exact ⟨hre, hexecute, hcuts⟩

end Statement
end ClaimRules
