import ClaimRules.Proofs.OperandSyntax
import ClaimRules.Proofs.PatternCode
import ClaimRules.Proofs.PatternRuns

/-! References as regular expressions. A pattern for references goes the ways of their written forms, and
prefers the reference that stands in the text. -/

namespace ClaimRules
namespace Reference

open Regex Unicode

def expression : String := "\\$\\\x7b?([a-zA-Z][a-zA-Z0-9_]*)(\\[([a-zA-Z0-9_]+)\\])?\\\x7d?"

def loneExpression : String := "^\\s*" ++ expression ++ "\\s*$"

def letters : CodeSet := [⟨65, 90⟩, ⟨97, 122⟩]

def nameSet : CodeSet := [⟨48, 57⟩, ⟨65, 90⟩, ⟨95, 95⟩, ⟨97, 122⟩]

theorem contains_letters (c : Char) : letters.contains c.toNat = c.isAlpha := by
  rw [Bool.eq_iff_iff, Reference.isAlpha_iff_toNat]
  grind [letters, CodeSet.contains]

theorem contains_nameSet (c : Char) : nameSet.contains c.toNat = isNameChar c := by
  rw [Bool.eq_iff_iff, Reference.isNameChar_iff_toNat]
  grind [nameSet, CodeSet.contains]

def namePattern : Pattern :=
  .group 1 none (.sequence [.oneOf letters, .repeated 0 none true (.oneOf nameSet)])

def indexPattern : Pattern :=
  .group 2 none (.sequence
    [.literal ['['], .group 3 none (.repeated 1 none true (.oneOf nameSet)), .literal [']']])

def optional (p : Pattern) : Pattern := .repeated 0 (some 1) true p

def formParts : List Pattern :=
  [.literal ['$'], optional (.literal ['\x7b']), namePattern, optional indexPattern,
    optional (.literal ['\x7d'])]

def pattern : Pattern := .sequence formParts

def blanks : Pattern := .repeated 0 none true (.oneOf whiteSpace)

def lonePattern : Pattern :=
  .sequence ([.anchor .textStart, blanks] ++ formParts ++ [blanks, .anchor .textEnd])

def regex : Regex := ⟨pattern.groupNames, pattern.program.toArray⟩

def loneRegex : Regex := ⟨lonePattern.groupNames, lonePattern.program.toArray⟩

theorem compile_expression : compile expression = .ok regex := compile_eq_ok rfl

theorem compile_loneExpression : compile loneExpression = .ok loneRegex := compile_eq_ok rfl

theorem advances_pattern : pattern.advances = true := rfl

theorem advances_lonePattern : lonePattern.advances = true := rfl

section Forms

open Ways Progress

variable {chars : List Char} {s s' : Progress} {c : Char}

def storeName (s : Progress) (name : List Char) : Progress := ((s.store 2).skip name).store 3

def storeIndex (s : Progress) : Option String → Progress
  | none => s
  | some index =>
    ((((((s.store 4).skip ['[']).store 6).skip index.toList).store 7).skip [']']).store 5

def storeForm (s : Progress) (r : Reference) (opened closed : Bool) : Progress :=
  (storeIndex (storeName ((s.skip ['$']).skip (brace opened '\x7b')) r.name.toList) r.index).skip
    (brace closed '\x7d')

theorem place_storeIndex (s : Progress) (index : Option String) :
    (storeIndex s index).place = (s.skip (bracketed index)).place := by
  cases index with
  | none => rfl
  | some index =>
    simp only [storeIndex, bracketed, place_skip, place_store, List.length_cons, List.length_append,
      List.length_nil]
    omega

theorem place_storeForm (s : Progress) (r : Reference) (opened closed : Bool) :
    (storeForm s r opened closed).place = (s.skip (r.written opened closed)).place := by
  simp only [storeForm, place_skip, place_storeIndex, storeName, place_store, written, body,
    List.length_cons, List.length_append, List.length_nil]
  omega

theorem mem_char : s' ∈ Pattern.ways chars.toArray (.literal [c]) s ↔
    Ahead chars s [c] ∧ s' = s.skip [c] := by
  have hone : Pattern.ways chars.toArray (.literal [c]) =
      taking chars.toArray (.single c.toNat) :=
    andThen_stay _
  rw [hone, mem_taking]
  constructor
  · rintro ⟨d, hd, hahead, rfl⟩
    cases contains_single.1 hd
    exact ⟨hahead, rfl⟩
  · rintro ⟨hahead, rfl⟩
    exact ⟨c, contains_single.2 rfl, hahead, rfl⟩

theorem ways_optional (p : Pattern) :
    (optional p).ways chars.toArray = upTo (p.ways chars.toArray) true 1 :=
  stay_andThen _

theorem mem_brace : s' ∈ Pattern.ways chars.toArray (optional (.literal [c])) s ↔
    ∃ present, Ahead chars s (brace present c) ∧ s' = s.skip (brace present c) := by
  rw [ways_optional, mem_optional, mem_char]
  constructor
  · rintro (⟨hahead, rfl⟩ | rfl)
    · exact ⟨true, hahead, rfl⟩
    · exact ⟨false, ahead_nil, rfl⟩
  · rintro ⟨present, hahead, rfl⟩
    cases present with
    | true => exact .inl ⟨hahead, rfl⟩
    | false => exact .inr rfl

theorem ways_group (index : Nat) (body : Pattern) :
    Pattern.ways chars.toArray (.group index none body) =
      andThen (storing (2 * index)) (andThen (body.ways chars.toArray) (storing (2 * index + 1))) :=
  rfl

theorem mem_group {index : Nat} {body : Pattern} :
    s' ∈ Pattern.ways chars.toArray (.group index none body) s ↔
      ∃ t ∈ body.ways chars.toArray (s.store (2 * index)), s' = t.store (2 * index + 1) := by
  simp only [ways_group, mem_andThen, mem_storing, exists_eq_left]

theorem ways_run (set : CodeSet) :
    Pattern.ways chars.toArray (.repeated 0 none true (.oneOf set)) =
      loop chars.toArray (taking chars.toArray set) true :=
  stay_andThen _

theorem ways_name : Pattern.ways chars.toArray
    (.sequence [.oneOf letters, .repeated 0 none true (.oneOf nameSet)]) =
      andThen (taking chars.toArray letters)
        (loop chars.toArray (taking chars.toArray nameSet) true) := by
  rw [← ways_run, ← andThen_stay (Pattern.ways _ (.repeated _ _ _ _))]
  rfl

theorem mem_name : s' ∈ namePattern.ways chars.toArray s ↔
    ∃ name, IsName name ∧ Ahead chars s name ∧ s' = storeName s name := by
  rw [namePattern, mem_group, ways_name]
  simp only [mem_andThen, mem_taking, mem_loop_taking, contains_letters, contains_nameSet]
  constructor
  · rintro ⟨_, ⟨_, ⟨c, hc, hfirst, rfl⟩, run, hrun, hahead, rfl⟩, rfl⟩
    refine ⟨c :: run, ⟨⟨c, rfl, hc⟩, ?_⟩, ahead_cons.2 ⟨hfirst, hahead⟩, ?_⟩
    · exact List.forall_mem_cons.2 ⟨isNameChar_of_isAlpha hc, hrun⟩
    · rw [← skip_append]
      rfl
  · rintro ⟨name, hname, hahead, rfl⟩
    obtain ⟨c, hc, halpha⟩ := hname.first
    obtain ⟨run, rfl⟩ := List.head?_eq_some_iff.1 hc
    obtain ⟨hfirst, hrun⟩ := ahead_cons.1 hahead
    have hall := (List.forall_mem_cons.1 hname.all).2
    refine ⟨_, ⟨_, ⟨c, halpha, hfirst, rfl⟩, run, hall, hrun, rfl⟩, ?_⟩
    rw [← skip_append]
    rfl

theorem mem_run : s' ∈ Pattern.ways chars.toArray (.repeated 1 none true (.oneOf nameSet)) s ↔
    ∃ run, IsIndex run ∧ Ahead chars s run ∧ s' = s.skip run := by
  have hways : Pattern.ways chars.toArray (.repeated 1 none true (.oneOf nameSet)) =
      andThen (taking chars.toArray nameSet)
        (loop chars.toArray (taking chars.toArray nameSet) true) :=
    congrArg (andThen · (loop chars.toArray (taking chars.toArray nameSet) true)) (andThen_stay _)
  rw [hways]
  simp only [mem_andThen, mem_taking, mem_loop_taking, contains_nameSet]
  constructor
  · rintro ⟨_, ⟨c, hc, hfirst, rfl⟩, run, hall, hahead, rfl⟩
    have hindex : IsIndex (c :: run) := ⟨List.cons_ne_nil c run, List.forall_mem_cons.2 ⟨hc, hall⟩⟩
    exact ⟨c :: run, hindex, ahead_cons.2 ⟨hfirst, hahead⟩, (skip_append s [c] run).symm⟩
  · rintro ⟨run, hindex, hahead, rfl⟩
    cases run with
    | nil => exact absurd rfl hindex.nonempty
    | cons c run =>
      obtain ⟨hfirst, hrun⟩ := ahead_cons.1 hahead
      obtain ⟨hc, hall⟩ := List.forall_mem_cons.1 hindex.all
      exact ⟨_, ⟨c, hc, hfirst, rfl⟩, run, hall, hrun, skip_append s [c] run⟩

theorem mem_index : s' ∈ indexPattern.ways chars.toArray s ↔
    ∃ index : String, IsIndex index.toList ∧ Ahead chars s (bracketed (some index)) ∧
      s' = storeIndex s (some index) := by
  have hways : Pattern.ways chars.toArray (.sequence
      [.literal ['['], .group 3 none (.repeated 1 none true (.oneOf nameSet)), .literal [']']]) =
        andThen (Pattern.ways chars.toArray (.literal ['[']))
          (andThen (Pattern.ways chars.toArray (.group 3 none (.repeated 1 none true (.oneOf nameSet))))
            (Pattern.ways chars.toArray (.literal [']']))) := by
    rw [← andThen_stay (Pattern.ways _ (.literal [']']))]
    rfl
  have hahead {index : String} : Ahead chars s (bracketed (some index)) ↔
      Ahead chars s ['['] ∧ Ahead chars (s.skip ['[']) index.toList ∧
        Ahead chars ((s.skip ['[']).skip index.toList) [']'] := by
    rw [bracketed, ahead_cons, ahead_append]
  rw [indexPattern, mem_group, hways]
  simp only [mem_andThen, mem_char, mem_group, mem_run, hahead]
  constructor
  · rintro ⟨_, ⟨_, ⟨hopen, rfl⟩, _, ⟨_, ⟨run, hindex, hrun, rfl⟩, rfl⟩, hclose, rfl⟩, rfl⟩
    have hlist : (String.ofList run).toList = run := String.toList_ofList
    refine ⟨.ofList run, ?_, ?_, ?_⟩
    · rwa [hlist]
    · rw [hlist]
      exact ⟨hopen, hrun, hclose⟩
    · rw [storeIndex, hlist]
  · rintro ⟨index, hindex, ⟨hopen, hrun, hclose⟩, rfl⟩
    exact ⟨_, ⟨_, ⟨hopen, rfl⟩, _, ⟨_, ⟨index.toList, hindex, hrun, rfl⟩, rfl⟩, hclose, rfl⟩, rfl⟩

theorem mem_optional_index : s' ∈ (optional indexPattern).ways chars.toArray s ↔
    ∃ index : Option String, (∀ i ∈ index, IsIndex i.toList) ∧ Ahead chars s (bracketed index) ∧
      s' = storeIndex s index := by
  rw [ways_optional, mem_optional, mem_index]
  constructor
  · rintro (⟨index, hindex, hahead, rfl⟩ | rfl)
    · refine ⟨some index, ?_, hahead, rfl⟩
      rintro _ ⟨⟩
      exact hindex
    · exact ⟨none, nofun, ahead_nil, rfl⟩
  · rintro ⟨index | index, hindex, hahead, rfl⟩
    · exact .inr rfl
    · exact .inl ⟨index, hindex index rfl, hahead, rfl⟩

theorem ahead_written {r : Reference} {opened closed : Bool} :
    Ahead chars s (r.written opened closed) ↔
      Ahead chars s ['$'] ∧ Ahead chars (s.skip ['$']) (brace opened '\x7b') ∧
        Ahead chars ((s.skip ['$']).skip (brace opened '\x7b')) r.name.toList ∧
        Ahead chars (storeName ((s.skip ['$']).skip (brace opened '\x7b')) r.name.toList)
          (bracketed r.index) ∧
        Ahead chars (storeIndex (storeName ((s.skip ['$']).skip (brace opened '\x7b')) r.name.toList)
          r.index) (brace closed '\x7d') := by
  have hplace {t : Progress} {index : Option String} {run : List Char} :
      Ahead chars (storeIndex t index) run ↔ Ahead chars (t.skip (bracketed index)) run := by
    rw [Ahead, Ahead, place_storeIndex]
  rw [written, body, ahead_cons, List.append_assoc, List.append_assoc, ahead_append, ahead_append,
    ahead_append, hplace]
  exact Iff.rfl

theorem ways_formParts :
    Pattern.waysOfAll chars.toArray formParts =
      andThen (Pattern.ways chars.toArray (.literal ['$']))
        (andThen (Pattern.ways chars.toArray (optional (.literal ['\x7b'])))
          (andThen (namePattern.ways chars.toArray)
            (andThen ((optional indexPattern).ways chars.toArray)
              (Pattern.ways chars.toArray (optional (.literal ['\x7d'])))))) := by
  rw [← andThen_stay (Pattern.ways _ (optional (.literal ['\x7d'])))]
  rfl

theorem mem_form : s' ∈ Pattern.waysOfAll chars.toArray formParts s ↔
    ∃ r opened closed, Writable r ∧ Ahead chars s (r.written opened closed) ∧
      s' = storeForm s r opened closed := by
  simp only [ways_formParts, mem_andThen, mem_char, mem_brace, mem_name, mem_optional_index,
    ahead_written]
  constructor
  · rintro ⟨_, ⟨hdollar, rfl⟩, _, ⟨opened, hopen, rfl⟩, _, ⟨name, hname, hrun, rfl⟩, _,
      ⟨index, hindex, hbracketed, rfl⟩, closed, hclose, rfl⟩
    have hlist : (String.ofList name).toList = name := String.toList_ofList
    refine ⟨⟨.ofList name, index⟩, opened, closed, ⟨?_, hindex⟩, ⟨hdollar, hopen, ?_⟩, ?_⟩
    · rwa [hlist]
    · simp only [hlist]
      exact ⟨hrun, hbracketed, hclose⟩
    · rw [storeForm, hlist]
  · rintro ⟨r, opened, closed, hw, ⟨hdollar, hopen, hrun, hbracketed, hclose⟩, rfl⟩
    exact ⟨_, ⟨hdollar, rfl⟩, _, ⟨opened, hopen, rfl⟩, _, ⟨r.name.toList, hw.name, hrun, rfl⟩, _,
      ⟨r.index, hw.index, hbracketed, rfl⟩, closed, hclose, rfl⟩

theorem mem_blanks : s' ∈ blanks.ways chars.toArray s ↔
    ∃ run, (∀ c ∈ run, Operand.isBlank c = true) ∧ Ahead chars s run ∧ s' = s.skip run := by
  rw [blanks, ways_run, mem_loop_taking]
  rfl

theorem ways_lonePattern :
    lonePattern.ways chars.toArray =
      andThen (checking chars.toArray .textStart)
        (andThen (blanks.ways chars.toArray)
          (andThen (Pattern.waysOfAll chars.toArray formParts)
            (andThen (blanks.ways chars.toArray) (checking chars.toArray .textEnd)))) := by
  have hfront : Pattern.waysOfAll chars.toArray [.anchor .textStart, blanks] =
      andThen (checking chars.toArray .textStart) (blanks.ways chars.toArray) := by
    rw [← andThen_stay (blanks.ways _)]
    rfl
  have hback : Pattern.waysOfAll chars.toArray [blanks, .anchor .textEnd] =
      andThen (blanks.ways chars.toArray) (checking chars.toArray .textEnd) := by
    rw [← andThen_stay (checking _ .textEnd)]
    rfl
  rw [lonePattern, Pattern.ways, Pattern.waysOfAll_append, Pattern.waysOfAll_append, hfront, hback,
    andThen_assoc, andThen_assoc]

theorem mem_lonePattern (hs : s.place ≤ chars.length) : s' ∈ lonePattern.ways chars.toArray s ↔
    s.place = 0 ∧ ∃ left r opened closed right, (∀ c ∈ left ++ right, Operand.isBlank c = true) ∧
      Writable r ∧ chars = left ++ r.written opened closed ++ right ∧
        s' = (storeForm (s.skip left) r opened closed).skip right := by
  have hahead {left right : List Char} {r : Reference} {opened closed : Bool} :
      Ahead chars s (left ++ r.written opened closed ++ right) ↔
        Ahead chars s left ∧ Ahead chars (s.skip left) (r.written opened closed) ∧
          Ahead chars (storeForm (s.skip left) r opened closed) right := by
    rw [ahead_append, ahead_append, and_assoc, skip_append, Ahead, Ahead, Ahead, Ahead,
      place_storeForm]
  have hplace {left right : List Char} {r : Reference} {opened closed : Bool} :
      ((storeForm (s.skip left) r opened closed).skip right).place =
        (s.skip (left ++ r.written opened closed ++ right)).place := by
    rw [skip_append, skip_append, place_skip, place_storeForm, ← place_skip]
  simp only [ways_lonePattern, mem_andThen, mem_checking_textStart hs, mem_checking_textEnd,
    mem_blanks, mem_form]
  constructor
  · rintro ⟨t, ⟨hstart, ht⟩, _, ⟨left, hleft, hl, rfl⟩, _, ⟨r, opened, closed, hw, hform, rfl⟩, _,
      ⟨right, hright, hr, rfl⟩, hend, rfl⟩
    subst t
    rw [hplace] at hend
    have hchars := (ahead_of_place_eq_zero hstart).1 ⟨hahead.2 ⟨hl, hform, hr⟩, hend⟩
    exact ⟨hstart, left, r, opened, closed, right, List.forall_mem_append.2 ⟨hleft, hright⟩, hw,
      hchars, rfl⟩
  · rintro ⟨hstart, left, r, opened, closed, right, hblank, hw, hchars, rfl⟩
    obtain ⟨hleft, hright⟩ := List.forall_mem_append.1 hblank
    obtain ⟨hall, hend⟩ := (ahead_of_place_eq_zero hstart).2 hchars
    obtain ⟨hl, hform, hr⟩ := hahead.1 hall
    rw [← hplace] at hend
    exact ⟨s, ⟨hstart, rfl⟩, _, ⟨left, hleft, hl, rfl⟩, _, ⟨r, opened, closed, hw, hform, rfl⟩, _,
      ⟨right, hright, hr, rfl⟩, hend, rfl⟩

theorem head?_of_forall {α : Type} {as : List α} {a : α} (hmem : ∃ b, b ∈ as)
    (hall : ∀ b ∈ as, b = a) : as.head? = some a := by
  cases as with
  | nil => exact absurd hmem.choose_spec List.not_mem_nil
  | cons b as => rw [List.head?_cons, hall b List.mem_cons_self]

theorem head?_char (h : Ahead chars s [c]) :
    (Pattern.ways chars.toArray (.literal [c]) s).head? = some (s.skip [c]) :=
  head?_of_forall ⟨_, mem_char.2 ⟨h, rfl⟩⟩ fun _ ht => (mem_char.1 ht).2

theorem head?_brace {present : Bool} (h : Ahead chars s (brace present c))
    (htaken : present = false → (chars.drop s.place).head? ≠ some c) :
    (Pattern.ways chars.toArray (optional (.literal [c])) s).head? =
      some (s.skip (brace present c)) := by
  rw [ways_optional]
  cases present with
  | true => exact head?_optional_of_some (head?_char h)
  | false =>
    apply head?_optional_of_nil
    refine List.eq_nil_iff_forall_not_mem.2 fun t ht => ?_
    obtain ⟨rest, hrest⟩ := (mem_char.1 ht).1
    exact htaken rfl (by rw [← hrest]; rfl)

theorem head?_name {name rest : List Char} (hname : IsName name)
    (htext : chars.drop s.place = name ++ rest)
    (hends : ∀ c ∈ rest.head?, isNameChar c = false) :
    (namePattern.ways chars.toArray s).head? = some (storeName s name) := by
  obtain ⟨c, hc, halpha⟩ := hname.first
  obtain ⟨run, rfl⟩ := List.head?_eq_some_iff.1 hc
  have hahead : Ahead chars (s.store 2) [c] := ⟨run ++ rest, htext.symm⟩
  have hleft : chars.drop ((s.store 2).skip [c]).place = run ++ rest := drop_skip htext
  have hfirst : (taking chars.toArray letters (s.store 2)).head? = some ((s.store 2).skip [c]) :=
    head?_taking (by rwa [contains_letters]) hahead
  have hrun : (loop chars.toArray (taking chars.toArray nameSet) true
      ((s.store 2).skip [c])).head? = some (((s.store 2).skip [c]).skip run) := by
    refine head?_loop_taking hleft (fun d hd => ?_) fun d hd => ?_
    · rw [contains_nameSet]
      exact hname.all d (List.mem_cons_of_mem _ hd)
    · rw [contains_nameSet]
      exact hends d hd
  rw [namePattern, ways_group, ways_name]
  rw [← skip_append] at hrun
  exact head?_andThen rfl (head?_andThen (head?_andThen hfirst hrun) rfl)

theorem head?_index {index : Option String} (hindex : ∀ i ∈ index, IsIndex i.toList)
    (h : Ahead chars s (bracketed index))
    (hlacks : index = none → LacksIndex (chars.drop s.place)) :
    ((optional indexPattern).ways chars.toArray s).head? = some (storeIndex s index) := by
  rw [ways_optional]
  cases index with
  | none =>
    apply head?_optional_of_nil
    refine List.eq_nil_iff_forall_not_mem.2 fun t ht => ?_
    obtain ⟨index, hi, ⟨rest, hrest⟩, -⟩ := mem_index.1 ht
    refine hlacks rfl index.toList rest hi ?_
    rw [← hrest]
    simp [bracketed]
  | some index =>
    apply head?_optional_of_some
    have hi := hindex index rfl
    refine head?_of_forall ⟨_, mem_index.2 ⟨index, hi, h, rfl⟩⟩ fun t ht => ?_
    obtain ⟨other, ho, hother, rfl⟩ := mem_index.1 ht
    -- both indices are read from the same characters
    obtain ⟨rest, hrest⟩ := h
    obtain ⟨rest', hrest'⟩ := hother
    have hread : readIndex (chars.drop s.place) = (some index, rest) := by
      rw [← hrest, readIndex_bracketed hi]
    have hread' : readIndex (chars.drop s.place) = (some other, rest') := by
      rw [← hrest', readIndex_bracketed ho]
    cases hread.symm.trans hread'
    rfl

theorem head?_form {r : Reference} {opened closed : Bool} {after : List Char}
    (h : r.Stands opened closed (chars.drop s.place) after) :
    (Pattern.waysOfAll chars.toArray formParts s).head? = some (storeForm s r opened closed) := by
  have hahead : Ahead chars s (r.written opened closed) := ⟨after, h.text_eq.symm⟩
  obtain ⟨hdollar, hopen, hrun, hbracketed, hclose⟩ := ahead_written.1 hahead
  set t := (s.skip ['$']).skip (brace opened '\x7b') with ht
  -- the text that is left after each part
  have hbody : chars.drop (s.skip ['$']).place = brace opened '\x7b' ++
      (r.name.toList ++ (bracketed r.index ++ brace closed '\x7d' ++ after)) := by
    apply drop_skip
    rw [h.text_eq, written, body]
    simp only [List.cons_append, List.append_assoc, List.nil_append]
  have hname : chars.drop t.place =
      r.name.toList ++ (bracketed r.index ++ brace closed '\x7d' ++ after) :=
    drop_skip hbody
  have hindex : chars.drop (storeName t r.name.toList).place =
      bracketed r.index ++ (brace closed '\x7d' ++ after) := by
    rw [← List.append_assoc]
    exact drop_skip hname
  have hlast : chars.drop (storeIndex (storeName t r.name.toList) r.index).place =
      brace closed '\x7d' ++ after := by
    rw [place_storeIndex]
    exact drop_skip hindex
  have hfirst := head?_brace hopen fun hnone => by
    obtain ⟨c, hc, halpha⟩ := h.writable.name.first
    obtain ⟨run, hcons⟩ := List.head?_eq_some_iff.1 hc
    rw [hbody, hnone, hcons]
    rintro ⟨⟩
    cases halpha
  have hsecond := head?_index h.writable.index hbracketed fun hnone => by
    rw [hindex, hnone]
    exact h.index_taken hnone
  have hthird := head?_brace hclose fun hnone => by
    rw [hlast, hnone]
    exact h.brace_taken hnone
  rw [ways_formParts]
  exact head?_andThen (head?_char hdollar) (head?_andThen hfirst
    (head?_andThen (head?_name h.writable.name hname h.name_ends) (head?_andThen hsecond hthird)))

end Forms

end Reference
end ClaimRules
