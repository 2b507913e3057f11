import ClaimRules.Proofs.PlainPatterns

/-! Splitting and joining with the same separator. What is split by a plain separator and joined again is the
text without the separators at its end. -/

namespace ClaimRules.Statement

open Regex

variable {re : Regex} {pattern : String} {text : List Char} {sep : List Char}

theorem intercalate_replicate_nil (sep : List Char) (n : Nat) :
    sep.intercalate (List.replicate (n + 1) []) = (List.replicate n sep).flatten := by
  induction n with
  | zero => rfl
  | succ n ih =>
    rw [List.replicate_succ, List.intercalate_cons_of_ne_nil (by simp), ih]
    rfl

theorem intercalate_append_replicate_nil {kept : List (List Char)} (hne : kept ≠ []) (n : Nat) :
    sep.intercalate (kept ++ List.replicate n []) =
      sep.intercalate kept ++ (List.replicate n sep).flatten := by
  induction kept with
  | nil => exact absurd rfl hne
  | cons piece rest ih =>
    rcases rest with _ | ⟨next, rest⟩
    · rcases n with _ | n
      · simp
      · rw [List.singleton_append, List.intercalate_cons_of_ne_nil (by simp),
          intercalate_replicate_nil, List.intercalate_singleton, List.replicate_succ,
          List.flatten_cons, List.append_assoc]
    · have hrest := ih (List.cons_ne_nil _ _)
      rw [List.cons_append, List.intercalate_cons_of_ne_nil (by simp), hrest,
        List.intercalate_cons_of_ne_nil (List.cons_ne_nil _ _), List.append_assoc _ _ (List.flatten _)]

theorem leadingPiece_plain (hplain : IsPlain pattern) (hne : pattern ≠ "")
    (hre : compile pattern = .ok re) :
    leadingPiece ((re.matchesIn text).map Match.span) = [] := by
  unfold leadingPiece
  rw [List.head?_map, ← firstMatch?_eq_head?]
  refine if_neg fun h => ?_
  obtain ⟨m, hm, hspan⟩ := Option.map_eq_some_iff.1 h
  have hslice := (occurs_of_matchFrom? hplain hne hre hm).slice
  rw [hspan] at hslice
  exact hne (String.toList_eq_nil_iff.1 hslice.symm)

theorem intercalate_splitText (hplain : IsPlain pattern) (hne : pattern ≠ "")
    (hre : compile pattern = .ok re) (text : List Char) :
    (∃ n, text = pattern.toList.intercalate (splitText re text) ++
        (List.replicate n pattern.toList).flatten) ∧
      ∀ piece ∈ splitText re text, ¬ pattern.toList <:+: piece := by
  obtain ⟨htext, hpieces⟩ := pieces_plain hplain hne hre text
  by_cases hempty : text = []
  · rw [splitText_whole (.inl hempty)]
    refine ⟨⟨0, by simp⟩, List.forall_mem_singleton.2 fun hin => ?_⟩
    rw [hempty] at hin
    exact hne (String.toList_eq_nil_iff.1 (List.infix_nil.1 hin))
  by_cases hms : re.matchesIn text = []
  · rw [splitText_whole (.inr hms)]
    refine ⟨⟨0, by simp⟩, List.forall_mem_singleton.2 (hpieces _ ?_)⟩
    rw [pieces, hms]
    exact List.mem_singleton_self _
  obtain ⟨-, n, hn⟩ := pieces_eq_splitText hempty hms
  rw [leadingPiece_plain hplain hne hre, List.nil_append] at hn
  refine ⟨?_, fun piece hp => hpieces piece (hn ▸ List.mem_append_left _ hp)⟩
  rw [hn] at htext
  by_cases hkept : splitText re text = []
  · -- the text consists of separators, one less than there are pieces
    rw [hkept, List.nil_append] at htext
    rcases n with _ | n
    · exact absurd htext hempty
    · rw [intercalate_replicate_nil] at htext
      exact ⟨n, by rw [hkept]; exact htext⟩
  · rw [intercalate_append_replicate_nil hkept] at htext
    exact ⟨n, htext⟩

/-- A text that is split by a plain separator is, joined with it again, what it was without the
separators at its end; a text that does not end in one is the same as before. -/
theorem join_split {s : Statement} {r : Reference} {ctx : Context} {text separator : String}
    (hv : s.verb = .ok .split) (hr : s.operand? 1 = some (.reference r))
    (ha : r.Assignable ctx.bindings) (ht : s.Yields ctx.bindings 2 (.string text))
    (hs : s.Yields ctx.bindings 3 (.string separator)) (hplain : IsPlain separator)
    (hne : separator ≠ "") :
    ∃ (pieces : List String) (joined : String) (n : Nat),
      let stored := (r.assign (.array (pieces.map .string)) ctx.bindings).2
      s.execute ctx = (.ok .statementContinue, ⟨stored, true⟩) ∧
      r.resolve stored = .ok (.array (pieces.map .string)) ∧
      (∀ piece ∈ pieces, ¬ separator.toList <:+: piece.toList) ∧
      text.toList = joined.toList ++ (List.replicate n separator.toList).flatten ∧
      (¬ separator.toList <:+ text.toList → joined = text) ∧
      ∀ (s' : Statement) (r' : Reference) (ctx' : Context), s'.verb = .ok .join →
        s'.operand? 1 = some (.reference r') → r'.Assignable ctx'.bindings →
        s'.Yields ctx'.bindings 2 (.array (pieces.map .string)) →
        s'.Yields ctx'.bindings 3 (.string separator) →
        s'.execute ctx' = (.ok .statementContinue,
          ⟨(r'.assign (.string joined) ctx'.bindings).2, true⟩) := by
  obtain ⟨re, hre⟩ : ∃ re, compile separator = .ok re := ⟨_, compile_plain hplain hne⟩
  obtain ⟨⟨n, htext⟩, hpieces⟩ := intercalate_splitText hplain hne hre text.toList
  set kept := splitText re text.toList
  have hitems : (kept.map String.ofList).map Value.string = kept.map fun p => .string (.ofList p) :=
    List.map_map ..
  have hstored := execute_split hv hr ha ht hs hre
  rw [← hitems] at hstored
  refine ⟨kept.map String.ofList, .ofList (separator.toList.intercalate kept), n, hstored,
    Reference.resolve_assign ha, ?_, ?_, fun hsuffix => ?_, ?_⟩
  · intro piece hp
    obtain ⟨chars, hchars, rfl⟩ := List.mem_map.1 hp
    rw [String.toList_ofList]
    exact hpieces chars hchars
  · rw [String.toList_ofList]
    exact htext
  · -- there is no separator at the end
    rcases n with _ | n
    · rw [List.replicate_zero, List.flatten_nil, List.append_nil] at htext
      rw [← htext, String.ofList_toList]
    · rw [List.replicate_succ', List.flatten_concat, ← List.append_assoc] at htext
      exact absurd ⟨_, htext.symm⟩ hsuffix
  · intro s' r' ctx' hv' hr' ha' hi' hs'
    have hjoined : separator.intercalate (((kept.map String.ofList).map Value.string).map
        Value.splice) = .ofList (separator.toList.intercalate kept) := by
      rw [← String.toList_inj, String.toList_intercalate, String.toList_ofList]
      simp [Function.comp_def, Value.splice]
    refine Reference.execute_of_store (effect_eq_ok_iff.2 ⟨.join, hv', join_iff.2 ⟨r',
      target_eq_ok_iff.2 hr', _, array_eq_ok_iff.2 hi', _, string_eq_ok_iff.2 hs', ?_⟩⟩) ha'
    rw [hjoined]

theorem join_split_overlapping :
    let s : Statement := ⟨[.string "split", .string "$parts", .string "aaabaaaa", .string "aa"]⟩
    let s' : Statement := ⟨[.string "join", .string "$text", .string "$parts", .string "aa"]⟩
    let ctx : Context := ⟨[], false⟩
    let stored : Bindings := [("parts", .array [.string "", .string "ab"])]
    s.execute ctx = (.ok .statementContinue, ⟨stored, true⟩) ∧
      s'.execute ⟨stored, true⟩ =
        (.ok .statementContinue, ⟨stored ++ [("text", .string "aaab")], true⟩) ∧
      ∃ n, "aaabaaaa".toList = "aaab".toList ++ (List.replicate n "aa".toList).flatten := by
  intro s s' ctx stored
  have hsplit : s.execute ctx = (.ok .statementContinue, ⟨stored, true⟩) := rfl
  have hjoin : s'.execute ⟨stored, true⟩ =
      (.ok .statementContinue, ⟨stored ++ [("text", .string "aaab")], true⟩) := rfl
  have hr : s.operand? 1 = some (.reference ⟨"parts", none⟩) := rfl
  have ha : (⟨"parts", none⟩ : Reference).Assignable ctx.bindings := .inl rfl
  have ht : s.Yields ctx.bindings 2 (.string "aaabaaaa") :=
    ⟨.constant (.string "aaabaaaa"), rfl, rfl⟩
  have hs : s.Yields ctx.bindings 3 (.string "aa") := ⟨.constant (.string "aa"), rfl, rfl⟩
  have hplain : IsPlain "aa" := by simp [IsPlain, metacharacters]
  obtain ⟨pieces, joined, n, hstored, -, -, htext, -, hall⟩ :=
    join_split rfl hr ha ht hs hplain (by decide)
  have hpieces : pieces.map Value.string = [.string "", .string "ab"] := by
    have h := hstored.symm.trans hsplit
    simpa [ctx, stored, Reference.assign, Bindings.bind, Entries.insert] using h
  rw [hpieces] at hall
  have hexecute := hall s' ⟨"text", none⟩ ⟨stored, true⟩ rfl rfl (.inl rfl)
    ⟨.reference ⟨"parts", none⟩, rfl, rfl⟩ ⟨.constant (.string "aa"), rfl, rfl⟩
  have hjoined : joined = "aaab" := by
    have h := hexecute.symm.trans hjoin
    simpa [stored, Reference.assign, Bindings.bind, Entries.insert] using h
  exact ⟨hsplit, hjoin, n, hjoined ▸ htext⟩

end ClaimRules.Statement
