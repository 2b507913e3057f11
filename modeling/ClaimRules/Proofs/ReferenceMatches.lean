import ClaimRules.Proofs.ReferencePatterns
import ClaimRules.Proofs.Scanning

/-! The references that are read are those that regular expressions find: one for the references in a
template, one for a text that is no more than a reference. -/

namespace ClaimRules

namespace Reference

open Regex Progress Ways

def ofMatch (text : List Char) (m : Match) : Option Reference :=
  m.groups[1]?.join.map fun name =>
    ⟨.ofList (name.slice text), m.groups[3]?.join.map fun index => .ofList (index.slice text)⟩

/-- What a whole match stores that has more characters on both sides of a written form. -/
def storeMatch (place : Nat) (left : List Char) (r : Reference) (opened closed : Bool)
    (right : List Char) : Progress :=
  ((storeForm ((store ⟨place, List.replicate 8 none⟩ 0).skip left) r opened closed).skip right).store 1

def matchOf (place : Nat) (left : List Char) (r : Reference) (opened closed : Bool)
    (right : List Char) : Match :=
  ⟨⟨place, (storeMatch place left r opened closed right).place⟩,
    (List.range 4).map (spanOfSlots (storeMatch place left r opened closed right).slots)⟩

section Groups

variable {place : Nat} {left right chars : List Char} {r : Reference} {opened closed : Bool}

theorem place_storeMatch :
    (storeMatch place left r opened closed right).place =
      place + (left ++ r.written opened closed ++ right).length := by
  simp only [storeMatch, place_store, place_skip, place_storeForm, List.length_append]
  omega

theorem span_storeMatch :
    spanOfSlots (storeMatch place left r opened closed right).slots 0 =
      some (matchOf place left r opened closed right).span := by
  obtain ⟨name, index⟩ := r
  cases index <;> rfl

theorem ofMatch_matchOf
    (h : Ahead chars ((store ⟨place, List.replicate 8 none⟩ 0).skip left) (r.written opened closed)) :
    ofMatch chars (matchOf place left r opened closed right) = some r := by
  obtain ⟨-, -, hname, hbracketed, -⟩ := ahead_written.1 h
  set s := (((store ⟨place, List.replicate 8 none⟩ 0).skip left).skip ['$']).skip
    (brace opened '\x7b') with hs
  obtain ⟨name, index⟩ := r
  have hgroup : (matchOf place left ⟨name, index⟩ opened closed right).groups[1]?.join =
      some ⟨s.place, (s.skip name.toList).place⟩ := by
    cases index <;> rfl
  rw [ofMatch, hgroup, Option.map_some, hname.slice, String.ofList_toList]
  cases index with
  | none => rfl
  | some index =>
    have hindex : Ahead chars ((storeName s name.toList).skip ['[']) index.toList := by
      rw [bracketed, ahead_cons, ahead_append] at hbracketed
      exact hbracketed.2.1
    have hgroup : (matchOf place left ⟨name, some index⟩ opened closed right).groups[3]?.join =
        some ⟨((storeName s name.toList).skip ['[']).place,
          (((storeName s name.toList).skip ['[']).skip index.toList).place⟩ := rfl
    rw [hgroup, Option.map_some, hindex.slice, String.ofList_toList]

theorem stop_matchOf (before : List Char) (r : Reference) (opened closed : Bool) :
    (matchOf before.length [] r opened closed []).span.stop =
      (before ++ r.written opened closed).length := by
  change (storeMatch before.length [] r opened closed []).place = _
  rw [place_storeMatch, List.nil_append, List.append_nil, List.length_append]

end Groups

section Search

variable {chars text after : List Char} {place : Nat} {r : Reference} {opened closed : Bool}

theorem bestAt_of_stands (h : r.Stands opened closed (chars.drop place) after) :
    pattern.bestAt chars.toArray place = some (storeMatch place [] r opened closed []).slots := by
  have hform : (Pattern.waysOfAll chars.toArray formParts
      (store ⟨place, List.replicate 8 none⟩ 0)).head? =
        some (storeForm (store ⟨place, List.replicate 8 none⟩ 0) r opened closed) :=
    head?_form h
  have hwhole := head?_andThen (v := storing 0) rfl (head?_andThen hform (w := storing 1) rfl)
  exact congrArg (Option.map Progress.slots) hwhole

theorem bestAt_of_not_opens (h : ¬ Opens (chars.drop place)) :
    pattern.bestAt chars.toArray place = none := by
  rw [Pattern.bestAt, Option.map_eq_none_iff, List.head?_eq_none_iff,
    List.eq_nil_iff_forall_not_mem]
  intro s hs
  obtain ⟨t, ht, hs⟩ := mem_andThen.1 hs
  cases mem_storing.1 ht
  obtain ⟨u, hu, -⟩ := mem_andThen.1 hs
  obtain ⟨r, opened, closed, hw, ⟨rest, hrest⟩, -⟩ := mem_form.1 hu
  apply h
  have hopens : Opens (r.written opened closed ++ rest) := opens_written hw opened closed rest
  rwa [hrest] at hopens

theorem matchFrom?_of_stands (h : r.Stands opened closed (chars.drop place) after) :
    regex.matchFrom? chars.toArray place = some (matchOf place [] r opened closed []) := by
  have hahead : Ahead chars ⟨place, []⟩ (r.written opened closed) := ⟨after, h.text_eq.symm⟩
  have hplace : place ≤ chars.toArray.size := by
    have hle : place + (r.written opened closed).length ≤ chars.length :=
      hahead.place_le (List.cons_ne_nil _ _)
    rw [List.size_toArray]
    omega
  have hmatch := Pattern.matchFrom?_of_bestAt advances_pattern hplace (bestAt_of_stands h)
  rw [span_storeMatch] at hmatch
  exact hmatch

theorem matchFrom?_of_not_opens (hplace : place ≤ chars.length) (h : ¬ Opens (chars.drop place)) :
    regex.matchFrom? chars.toArray place = regex.matchFrom? chars.toArray (place + 1) :=
  Pattern.matchFrom?_succ advances_pattern hplace (bestAt_of_not_opens h)

theorem matchFrom?_length (chars : List Char) :
    regex.matchFrom? chars.toArray chars.length = none := by
  refine Pattern.matchFrom?_eq_none advances_pattern fun q hq _ => bestAt_of_not_opens ?_
  rintro ⟨opened, c, rest, -, htext⟩
  rw [List.drop_of_length_le hq] at htext
  cases htext

theorem span_ne_of_matchFrom? {m : Match} (h : regex.matchFrom? chars.toArray place = some m) :
    m.span.start ≠ m.span.stop := by
  rw [regex, Pattern.matchFrom?_program advances_pattern] at h
  obtain ⟨slots, hslots, hspan⟩ := Option.bind_eq_some_iff.1 h
  obtain ⟨span, hgroup, rfl⟩ := Option.map_eq_some_iff.1 hspan
  obtain ⟨q, -, hq⟩ := List.exists_of_findSome?_eq_some hslots
  by_cases hopens : Opens (chars.drop q)
  · obtain ⟨r, opened, closed, after, hstands⟩ := opens_iff.1 hopens
    cases (bestAt_of_stands hstands).symm.trans hq
    cases span_storeMatch.symm.trans hgroup
    change q ≠ (storeMatch q [] r opened closed []).place
    rw [place_storeMatch, Reference.written]
    simp only [List.nil_append, List.append_nil, List.length_cons]
    omega
  · cases (bestAt_of_not_opens hopens).symm.trans hq

theorem matchesAfter_succ (chars : List Char) (fuel : Nat) (last : Option Nat) :
    regex.matchesAfter chars.toArray (fuel + 1) last =
      match regex.matchFrom? chars.toArray (last.getD 0) with
      | none => []
      | some m => m :: regex.matchesAfter chars.toArray fuel (some m.span.stop) := by
  rw [Regex.matchesAfter]
  rcases h : regex.matchFrom? chars.toArray (last.getD 0) with _ | m
  · rfl
  · simp only [span_ne_of_matchFrom? h, false_and, if_false]

theorem matchesAfter_of_stands {before : List Char} {last : Option Nat} (fuel : Nat)
    (hlast : last.getD 0 = before.length) (h : r.Stands opened closed text after) :
    regex.matchesAfter (before ++ text).toArray (fuel + 1) last =
      matchOf before.length [] r opened closed [] ::
        regex.matchesAfter (before ++ text).toArray fuel
          (some (before ++ r.written opened closed).length) := by
  have hdrop : (before ++ text).drop before.length = text := List.drop_left
  have hmatch : regex.matchFrom? (before ++ text).toArray before.length =
      some (matchOf before.length [] r opened closed []) :=
    matchFrom?_of_stands (hdrop.symm ▸ h)
  rw [matchesAfter_succ, hlast, hmatch, ← stop_matchOf]

theorem matchesAfter_of_not_opens {before rest : List Char} {c : Char} {last : Option Nat}
    (fuel : Nat) (hlast : last.getD 0 = before.length) (h : ¬ Opens (c :: rest)) :
    regex.matchesAfter (before ++ c :: rest).toArray (fuel + 1) last =
      regex.matchesAfter (before ++ c :: rest).toArray (fuel + 1) (some (before ++ [c]).length) := by
  have hdrop : (before ++ c :: rest).drop before.length = c :: rest := List.drop_left
  have hplace : before.length ≤ (before ++ c :: rest).length := by
    rw [List.length_append]
    exact Nat.le_add_right ..
  have hnext := matchFrom?_of_not_opens hplace (hdrop.symm ▸ h)
  have hlength : (before ++ [c]).length = before.length + 1 := List.length_append
  rw [matchesAfter_succ, matchesAfter_succ, hlast, Option.getD_some, hlength, hnext]

end Search

end Reference

namespace Template

open Regex Reference

def occurrenceOf (text : List Char) (m : Match) : Option Occurrence :=
  if (text.take m.span.start).getLast? = some '\\' then none
  else (ofMatch text m).map fun r =>
    ⟨utf8Size (text.take m.span.start), utf8Size (text.take m.span.stop), r⟩

theorem occurrenceOf_matchOf (before after : List Char) (r : Reference) (opened closed : Bool) :
    occurrenceOf (before ++ (r.written opened closed ++ after))
        (matchOf before.length [] r opened closed []) =
      if endsEscaped false before then none
      else some ⟨utf8Size before, utf8Size before + utf8Size (r.written opened closed), r⟩ := by
  have hstart : (before ++ (r.written opened closed ++ after)).take before.length = before :=
    List.take_left
  have hstop : (before ++ (r.written opened closed ++ after)).take
      (matchOf before.length [] r opened closed []).span.stop = before ++ r.written opened closed := by
    rw [stop_matchOf, ← List.append_assoc, List.take_left]
  have hread : ofMatch (before ++ (r.written opened closed ++ after))
      (matchOf before.length [] r opened closed []) = some r := by
    apply ofMatch_matchOf
    exact ⟨after, List.drop_left.symm⟩
  have hspan : (matchOf before.length [] r opened closed []).span.start = before.length := rfl
  rw [occurrenceOf, hspan, hstart, hstop, hread, Option.map_some, utf8Size_append]
  rcases he : endsEscaped false before with _ | _
  · exact if_neg (endsEscaped_false_iff.1 he)
  · have hlast : before.getLast? = some '\\' := by
      by_contra hne
      cases he.symm.trans (endsEscaped_false_iff.2 hne)
    exact if_pos hlast

/-- From a place on, the matches that are no escaped ones are the occurrences in what is left. -/
theorem filterMap_matchesAfter {rest : List Char} :
    ∀ before fuel last, Option.getD last 0 = before.length → rest.length < fuel →
      (regex.matchesAfter (before ++ rest).toArray fuel last).filterMap
          (occurrenceOf (before ++ rest)) =
        occurrencesFrom (utf8Size before) (piecesFrom (endsEscaped false before) rest) := by
  induction rest using scan_induction with
  | nil =>
    intro before fuel last hlast hfuel
    obtain ⟨fuel, rfl⟩ : ∃ n, fuel = n + 1 := ⟨fuel - 1, by omega⟩
    rw [matchesAfter_succ, hlast, List.append_nil, matchFrom?_length, piecesFrom]
    rfl
  | reference r opened closed text after h ih =>
    intro before fuel last hlast hfuel
    obtain ⟨fuel, rfl⟩ : ∃ n, fuel = n + 1 := ⟨fuel - 1, by omega⟩
    have hless : after.length < fuel := by
      rw [h.text_eq, Reference.written, List.length_append, List.length_cons] at hfuel
      omega
    have hrest := ih (before ++ r.written opened closed) fuel
      (some (before ++ r.written opened closed).length) rfl hless
    rw [endsEscaped_append, endsEscaped_written h.writable, utf8Size_append, List.append_assoc,
      ← h.text_eq] at hrest
    have hfirst := occurrenceOf_matchOf before after r opened closed
    rw [← h.text_eq] at hfirst
    rw [matchesAfter_of_stands fuel hlast h, piecesFrom_of_stands _ h]
    simp only [List.filterMap_cons, hrest, hfirst]
    cases endsEscaped false before <;> rfl
  | char c rest h ih =>
    intro before fuel last hlast hfuel
    obtain ⟨fuel, rfl⟩ : ∃ n, fuel = n + 1 := ⟨fuel - 1, by omega⟩
    have hless : rest.length < fuel + 1 := by
      rw [List.length_cons] at hfuel
      omega
    have hrest := ih (before ++ [c]) (fuel + 1) (some (before ++ [c]).length) rfl hless
    rw [endsEscaped_append, utf8Size_append, List.append_assoc] at hrest
    rw [matchesAfter_of_not_opens fuel hlast h, piecesFrom_of_not_opens _ h]
    exact hrest

def scanned (text : String) : Except Fault (List Occurrence) := do
  let re ← compile expression
  return (re.matchesIn text.toList).filterMap (occurrenceOf text.toList)

theorem scanned_eq (text : String) : scanned text = .ok (occurrences text) := by
  have hfound : (regex.matchesIn text.toList).filterMap (occurrenceOf text.toList) =
      occurrences text :=
    filterMap_matchesAfter [] _ none rfl (Nat.lt_add_of_pos_right (by decide))
  rw [scanned, compile_expression, ← hfound]
  rfl

/-- The references in a text are the matches of a regular expression that do not stand after a backslash,
and they are told by the text alone. One is found at a byte exactly if a dollar sign stands there, not
after a backslash, and a letter after it, with a brace between them or not. Its name takes all the
characters that a name can have, its index is what stands in brackets after the name, and a closing brace
after these belongs to it. The references are in order and share no bytes, and to replace them no slice
of the text is out of range. -/
theorem occurrences_exact (text : String) :
    scanned text = .ok (occurrences text) ∧
      (∀ o, o ∈ occurrences text ↔ ∃ before opened closed rest after,
        text.toList = before ++ rest ∧ before.getLast? ≠ some '\\' ∧
          o.reference.Stands opened closed rest after ∧ o.start = utf8Size before ∧
          o.stop = o.start + utf8Size (o.reference.written opened closed)) ∧
      (∀ place, (∃ o ∈ occurrences text, o.start = place) ↔
        ∃ before rest, text.toList = before ++ rest ∧ utf8Size before = place ∧
          before.getLast? ≠ some '\\' ∧ Reference.Opens rest) ∧
      (∀ o ∈ occurrences text, o.start < o.stop) ∧
      (occurrences text).Pairwise (fun o next => o.stop ≤ next.start) ∧
      ∀ bindings, (spliceFrom? (fun r => (r.resolve bindings).map Value.splice) text.toList 0
        (occurrences text)).map (Except.map String.ofList) = some (substitute text bindings) := by
  refine ⟨scanned_eq text, fun o => mem_occurrences_iff, exists_occurrence_iff,
    fun o => start_lt_stop, pairwise_occurrencesFrom _ _, fun bindings => ?_⟩
  rw [spliceFrom?_occurrences]
  rfl

end Template

namespace Operand

open Regex Reference Progress Ways

variable {text : String} {place : Nat}

theorem mem_whole {s : Progress} (hplace : place ≤ text.toList.length) :
    s ∈ lonePattern.whole text.toList.toArray ⟨place, List.replicate 8 none⟩ ↔
      place = 0 ∧ ∃ left r opened closed right, (∀ c ∈ left ++ right, isBlank c = true) ∧
        r.Writable ∧ text.toList = left ++ r.written opened closed ++ right ∧
          s = storeMatch place left r opened closed right := by
  rw [Pattern.whole]
  simp only [mem_andThen, mem_storing]
  constructor
  · rintro ⟨_, rfl, u, hu, rfl⟩
    obtain ⟨hstart, left, r, opened, closed, right, hblank, hw, htext, rfl⟩ :=
      (mem_lonePattern hplace).1 hu
    exact ⟨hstart, left, r, opened, closed, right, hblank, hw, htext, rfl⟩
  · rintro ⟨hstart, left, r, opened, closed, right, hblank, hw, htext, rfl⟩
    refine ⟨_, rfl, _, (mem_lonePattern hplace).2 ?_, rfl⟩
    exact ⟨hstart, left, r, opened, closed, right, hblank, hw, htext, rfl⟩

theorem bestAt_of_reference?_eq_none (h : reference? text = none)
    (hplace : place ≤ text.toList.length) : lonePattern.bestAt text.toList.toArray place = none := by
  rw [Pattern.bestAt, Option.map_eq_none_iff, List.head?_eq_none_iff,
    List.eq_nil_iff_forall_not_mem]
  intro s hs
  obtain ⟨-, left, r, opened, closed, right, hblank, hw, htext, -⟩ := (mem_whole hplace).1 hs
  have hspells : Spells text r opened closed := ⟨hw, left, right, hblank, htext⟩
  cases h.symm.trans hspells.reference?_eq

theorem exists_bestAt_of_reference? {r : Reference} (h : reference? text = some r) :
    ∃ left opened closed right, text.toList = left ++ r.written opened closed ++ right ∧
      lonePattern.bestAt text.toList.toArray 0 =
        some (storeMatch 0 left r opened closed right).slots := by
  obtain ⟨opened, closed, hw, left, right, hblank, htext⟩ := spells_of_reference? h
  have hmem := (mem_whole (Nat.zero_le _)).2 ⟨rfl, left, r, opened, closed, right, hblank, hw, htext, rfl⟩
  obtain ⟨s, rest, hcons⟩ := List.exists_cons_of_ne_nil (List.ne_nil_of_mem hmem)
  have hs : s ∈ lonePattern.whole text.toList.toArray ⟨0, List.replicate 8 none⟩ := by
    rw [hcons]
    exact List.mem_cons_self
  obtain ⟨-, left, r', opened, closed, right, hblank, hw, htext, rfl⟩ :=
    (mem_whole (Nat.zero_le _)).1 hs
  -- another way to match would spell another reference
  have hspells : Spells text r' opened closed := ⟨hw, left, right, hblank, htext⟩
  cases h.symm.trans hspells.reference?_eq
  have hbest : lonePattern.bestAt text.toList.toArray 0 =
      (lonePattern.whole text.toList.toArray ⟨0, List.replicate 8 none⟩).head?.map Progress.slots :=
    rfl
  rw [hcons] at hbest
  exact ⟨left, opened, closed, right, htext, hbest⟩

def matched? (text : String) : Except Fault (Option Reference) := do
  let re ← compile loneExpression
  return (re.firstMatch? text.toList).bind (ofMatch text.toList)

/-- A text refers to a variable exactly if the regular expression for whole texts matches it, and to the
one that the groups of the match name. -/
theorem matched?_eq (text : String) : matched? text = .ok (reference? text) := by
  have hfound : (loneRegex.firstMatch? text.toList).bind (ofMatch text.toList) = reference? text := by
    rw [Regex.firstMatch?]
    rcases h : reference? text with _ | r
    · have hnone : loneRegex.matchFrom? text.toList.toArray 0 = none :=
        Pattern.matchFrom?_eq_none advances_lonePattern fun q _ hq =>
          bestAt_of_reference?_eq_none h hq
      rw [hnone, Option.bind_none]
    · obtain ⟨left, opened, closed, right, htext, hbest⟩ := exists_bestAt_of_reference? h
      have hmatch := Pattern.matchFrom?_of_bestAt advances_lonePattern (Nat.zero_le _) hbest
      rw [span_storeMatch] at hmatch
      have hfirst : loneRegex.matchFrom? text.toList.toArray 0 =
          some (matchOf 0 left r opened closed right) :=
        hmatch
      rw [hfirst, Option.bind_some, ofMatch_matchOf]
      refine ⟨right, ?_⟩
      rw [htext, List.append_assoc, place_skip, place_store, Nat.zero_add, List.drop_left]
  rw [matched?, compile_loneExpression, ← hfound]
  rfl

end Operand
end ClaimRules
