import ClaimRules.Proofs.GroupNames
import ClaimRules.Proofs.PatternVerbs
import ClaimRules.Proofs.ReadBack
import Mathlib.Data.List.Infix

/-! What a search binds. The entries by number and those by name are of the same match, the leftmost one, and
nothing is left of what was bound before. A group in a part that is repeated zero times has no entry. -/

namespace ClaimRules.Statement

open Regex

variable {s : Statement} {ctx : Context} {text pattern : String} {e : Expr} {p : Pattern} {m : Match}

/-- What a search binds when it finds a match: under each number what this group took, from zero up to the
last group, and the same under the names, in the order of the groups. -/
structure Captured (text : List Char) (e : Expr) (p : Pattern) (groups : List Value)
    (named : Entries Value) : Prop where
  leftmost : ∃ span : Span, groups[0]? = some (.string (.ofList (span.slice text))) ∧
    p.Spans text.toArray span.start span.stop ∧ span.stop ≤ text.length ∧
    (∀ start stop, start < span.start → ¬ p.Spans text.toArray start stop) ∧
    ∀ value ∈ groups, value = .null ∨
      ∃ part : List Char, value = .string (.ofList part) ∧ part <:+: span.slice text
  length : groups.length = Ordered.lastNumber (e.groups false) + 1
  inside : ∀ g ∈ e.groups false, g.1 < groups.length
  named : named = (e.groups false).filterMap fun g => g.2.map fun name =>
    (name, groups.getD g.1 .null)

theorem slice_infix {inner outer : Span} {text : List Char} (hstart : outer.start ≤ inner.start)
    (hstop : inner.stop ≤ outer.stop) : inner.slice text <:+: outer.slice text := by
  have htake : text.take inner.stop <+: text.take outer.stop := List.take_prefix_take_left hstop
  have hdrop : inner.slice text = ((text.take inner.stop).drop outer.start).drop
      (inner.start - outer.start) := by
    rw [List.drop_drop, Nat.add_sub_cancel' hstart, Span.slice]
  rw [hdrop]
  exact (List.drop_suffix _ _).isInfix.trans (List.IsPrefix.drop htake outer.start).isInfix

theorem ofPairs_named {kept : List (Nat × Option String)} (h : Ordered kept) (value : Nat → Value) :
    Entries.ofPairs (kept.filterMap fun g => g.2.map fun name => (name, value g.1)) =
      kept.filterMap fun g => g.2.map fun name => (name, value g.1) := by
  have hkeys : (kept.filterMap fun g => g.2.map fun name => (name, value g.1)).map Prod.fst =
      kept.filterMap Prod.snd := by
    rw [List.map_filterMap]
    refine List.filterMap_congr fun g _ => ?_
    rw [Option.map_map]
    exact Option.map_id' ..
  apply Entries.ofPairs_of_distinct
  rw [Entries.Distinct, Entries.keys, hkeys]
  exact h.distinct

theorem captured_of_firstMatch? (he : Expr.parse pattern = .ok e) (hp : e.pattern = .ok p)
    {text : List Char} (hm : (⟨p.groupNames, p.program.toArray⟩ : Regex).firstMatch? text = some m) :
    Captured text e p (m.groups.map (groupValue text))
      (.ofPairs ((namedGroups ⟨p.groupNames, p.program.toArray⟩ m).map
        fun g => (g.1, groupValue text g.2))) := by
  have hkept := Expr.ordered_groups he false
  have hmem := Expr.mem_groups_pattern hp
  have hleft : p.Leftmost text.toArray 0 m :=
    Pattern.leftmost_of_matchFrom? (Expr.number_ne_zero he hp) hm
  refine ⟨⟨m.span, ?_, hleft.spans, hleft.inside.stop_le, fun start stop => hleft.first start stop
    (Nat.zero_le start), ?_⟩, ?_, ?_, ?_⟩
  · rw [List.getElem?_map, hleft.whole]
    rfl
  · refine List.forall_mem_map.2 fun span hspan => ?_
    rcases span with _ | span
    · exact .inl rfl
    · obtain ⟨hstart, -, -, hstop⟩ := hleft.groups span hspan
      exact .inr ⟨_, rfl, slice_infix hstart hstop⟩
  · rw [List.length_map, hleft.length_groups, length_groupNames hkept hmem]
  · intro g hg
    rw [List.length_map, hleft.length_groups]
    exact (groupNames_cases hmem).1 g hg
  · have hvalue (g : Nat × Option String) : groupValue text m.groups[g.1]?.join =
        (m.groups.map (groupValue text)).getD g.1 .null := by
      rw [List.getD_eq_getElem?_getD, List.getElem?_map]
      rcases m.groups[g.1]? with _ | span <;> rfl
    have hnamed : (namedGroups ⟨p.groupNames, p.program.toArray⟩ m).map
        (fun g => (g.1, groupValue text g.2)) = (e.groups false).filterMap fun g => g.2.map fun name =>
          (name, (m.groups.map (groupValue text)).getD g.1 .null) := by
      rw [namedGroups_eq hkept hmem hleft.length_groups, List.map_filterMap]
      refine List.filterMap_congr fun g _ => ?_
      rw [Option.map_map, ← hvalue]
      rfl
    rw [hnamed]
    exact ofPairs_named hkept fun k => (m.groups.map (groupValue text)).getD k .null

/-- A search says whether its pattern matches anywhere. If so, what it binds by number and by name is of the
leftmost match; if not, both are empty. Either way nothing is left of earlier searches. All groups of the
pattern have an entry, unless one is in a part that is repeated zero times. -/
theorem search_binds_groups (h : s.Searches ctx.bindings text pattern)
    (he : Expr.parse pattern = .ok e) (hp : e.pattern = .ok p) :
    ∃ (found : Bool) (groups : List Value) (named : Entries Value),
      let after := (ctx.bindings.bind Bindings.regexpArrayName (.array groups)).bind
        Bindings.regexpMapName (.map named)
      s.execute ctx = (.ok .statementContinue, ⟨after, found⟩) ∧
        Entries.get? after Bindings.regexpArrayName = some (.array groups) ∧
        Entries.get? after Bindings.regexpMapName = some (.map named) ∧
        (found = true ↔ ∃ start stop, start ≤ text.toList.length ∧
          p.Spans text.toList.toArray start stop) ∧
        (found = false → groups = [] ∧ named = []) ∧
        (found = true → Captured text.toList e p groups named ∧
          (e.groups false = e.groups true → groups.length = (e.groups true).length + 1)) := by
  have hexecute := h.execute_eq (compile_of_parse he hp)
  have hpos := Expr.number_ne_zero he hp
  have hread (groups : List Value) (named : Entries Value) :
      Entries.get? ((ctx.bindings.bind Bindings.regexpArrayName (.array groups)).bind
        Bindings.regexpMapName (.map named)) Bindings.regexpArrayName = some (.array groups) ∧
      Entries.get? ((ctx.bindings.bind Bindings.regexpArrayName (.array groups)).bind
        Bindings.regexpMapName (.map named)) Bindings.regexpMapName = some (.map named) := by
    have hne : Bindings.regexpArrayName ≠ Bindings.regexpMapName := by decide
    refine ⟨?_, Entries.get?_insert_self ..⟩
    rw [Bindings.bind, Entries.get?_insert_of_ne hne]
    exact Entries.get?_insert_self ..
  unfold searchEffect at hexecute
  rcases hm : (⟨p.groupNames, p.program.toArray⟩ : Regex).firstMatch? text.toList with _ | m
  · rw [hm] at hexecute
    have hnone : ¬ ∃ start stop, start ≤ text.toList.length ∧
        p.Spans text.toList.toArray start stop := by
      rintro ⟨start, stop, hle, hspans⟩
      exact Pattern.not_spans_of_matchFrom? hpos hm (Nat.zero_le _) hle _ hspans
    refine ⟨false, [], [], hexecute, (hread _ _).1, (hread _ _).2, ?_, fun _ => ⟨rfl, rfl⟩, ?_⟩
    · exact ⟨fun hfound => absurd hfound Bool.false_ne_true, fun hspans => absurd hspans hnone⟩
    · exact fun hfound => absurd hfound Bool.false_ne_true
  · rw [hm] at hexecute
    have hcaptured := captured_of_firstMatch? he hp hm
    have hleft := Pattern.leftmost_of_matchFrom? hpos hm
    have hsome : ∃ start stop, start ≤ text.toList.length ∧
        p.Spans text.toList.toArray start stop :=
      ⟨m.span.start, m.span.stop, Nat.le_trans hleft.inside.start_le hleft.inside.stop_le,
        hleft.spans⟩
    refine ⟨true, _, _, hexecute, (hread _ _).1, (hread _ _).2, ?_, ?_, ?_⟩
    · exact ⟨fun _ => hsome, fun _ => rfl⟩
    · exact fun hfound => absurd hfound.symm Bool.false_ne_true
    · refine fun _ => ⟨hcaptured, fun hall => ?_⟩
      rw [hcaptured.length, hall, Expr.length_groups he]

theorem search_binds_groups_nested :
    let s : Statement := ⟨[.string "regexp", .string "$text", .string "(?<k>a|(b))+(c)?"]⟩
    let ctx : Context :=
      ⟨[("text", .string "xab"), ("regexp_array", .array [.string "old"])], false⟩
    let e : Expr := .sequence [
      .repeated 1 none true (.group (.capture 1 (some "k"))
        (.choice [.literal ⟨'a', false⟩, .group (.capture 2 none) (.literal ⟨'b', false⟩)])),
      .repeated 0 (some 1) true (.group (.capture 3 none) (.literal ⟨'c', false⟩))]
    let p : Pattern := .sequence [
      .repeated 1 none true (.group 1 (some "k")
        (.choice [.literal ['a'], .group 2 none (.literal ['b'])])),
      .repeated 0 (some 1) true (.group 3 none (.literal ['c']))]
    let groups : List Value := [.string "ab", .string "b", .string "b", .null]
    let named : Entries Value := [("k", .string "b")]
    Expr.parse "(?<k>a|(b))+(c)?" = .ok e ∧ e.pattern = .ok p ∧
      s.execute ctx = (.ok .statementContinue, ⟨[("text", .string "xab"),
        ("regexp_array", .array groups), ("regexp_map", .map named)], true⟩) ∧
      Captured "xab".toList e p groups named ∧ groups.length = (e.groups true).length + 1 := by
  intro s ctx e p groups named
  have he : Expr.parse "(?<k>a|(b))+(c)?" = .ok e := rfl
  have hp : e.pattern = .ok p := rfl
  have hs : s.Searches ctx.bindings "xab" "(?<k>a|(b))+(c)?" :=
    ⟨rfl, ⟨.reference ⟨"text", none⟩, rfl, rfl⟩, ⟨.constant (.string _), rfl, rfl⟩⟩
  have hm : (⟨p.groupNames, p.program.toArray⟩ : Regex).firstMatch? "xab".toList =
      some ⟨⟨1, 3⟩, [some ⟨1, 3⟩, some ⟨2, 3⟩, some ⟨2, 3⟩, none]⟩ := by
    decide +kernel
  have hexecute : s.execute ctx = (.ok .statementContinue, ⟨[("text", .string "xab"),
      ("regexp_array", .array groups), ("regexp_map", .map named)], true⟩) := by
    rw [hs.execute_eq (compile_of_parse he hp), searchEffect, hm]
    rfl
  obtain ⟨found, groups', named', hsame, -, -, -, -, hfound⟩ := search_binds_groups hs he hp
  have hcontext := congrArg Prod.snd (hsame.symm.trans hexecute)
  simp [ctx, Bindings.bind, Entries.insert, Bindings.regexpArrayName, Bindings.regexpMapName]
    at hcontext
  obtain ⟨⟨rfl, rfl⟩, rfl⟩ := hcontext
  obtain ⟨hcaptured, hlength⟩ := hfound rfl
  exact ⟨he, hp, hexecute, hcaptured, hlength rfl⟩

/-- The first group is repeated zero times. It has no name in the map, though it has one in the pattern. -/
theorem search_loses_group :
    let e : Expr := .sequence [
      .repeated 0 (some 0) true (.group (.capture 1 (some "x")) (.literal ⟨'a', false⟩)),
      .literal ⟨'b', false⟩,
      .repeated 0 (some 1) true (.group (.capture 2 (some "y")) (.literal ⟨'c', false⟩))]
    let s : Statement := ⟨[.string "regexp", .string "ab", .string "(?<x>a)\x7b0\x7db(?<y>c)?"]⟩
    let ctx : Context := ⟨[], false⟩
    Expr.parse "(?<x>a)\x7b0\x7db(?<y>c)?" = .ok e ∧ e.groups true = [(1, some "x"), (2, some "y")] ∧
      s.execute ctx = (.ok .statementContinue, ⟨[
        ("regexp_array", .array [.string "b", .null, .null]),
        ("regexp_map", .map [("y", .null)])], true⟩) := by
  intro e s ctx
  let p : Pattern := .sequence
    [.literal ['b'], .repeated 0 (some 1) true (.group 2 (some "y") (.literal ['c']))]
  have he : Expr.parse "(?<x>a)\x7b0\x7db(?<y>c)?" = .ok e := rfl
  have hp : e.pattern = .ok p := rfl
  have hs : s.Searches ctx.bindings "ab" "(?<x>a)\x7b0\x7db(?<y>c)?" :=
    ⟨rfl, ⟨.constant (.string _), rfl, rfl⟩, ⟨.constant (.string _), rfl, rfl⟩⟩
  have hm : (⟨p.groupNames, p.program.toArray⟩ : Regex).firstMatch? "ab".toList =
      some ⟨⟨1, 2⟩, [some ⟨1, 2⟩, none, none]⟩ := by
    decide +kernel
  refine ⟨he, rfl, ?_⟩
  rw [hs.execute_eq (compile_of_parse he hp), searchEffect, hm]
  rfl

end ClaimRules.Statement
