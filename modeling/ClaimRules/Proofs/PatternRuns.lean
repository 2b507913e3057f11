import ClaimRules.Proofs.PatternWays

/-! Ways through a list of characters. Which ways there are is told by the characters that come next, and
the preferred way through a run of characters takes all of it. -/

namespace ClaimRules.Regex

namespace Progress

def skip (s : Progress) (run : List Char) : Progress := ⟨s.place + run.length, s.slots⟩

def store (s : Progress) (slot : Nat) : Progress := ⟨s.place, s.slots.set slot (some s.place)⟩

@[simp] theorem place_skip (s : Progress) (run : List Char) :
    (s.skip run).place = s.place + run.length := rfl

@[simp] theorem place_store (s : Progress) (slot : Nat) : (s.store slot).place = s.place := rfl

theorem skip_append (s : Progress) (front back : List Char) :
    s.skip (front ++ back) = (s.skip front).skip back := by
  simp only [skip, List.length_append, Nat.add_assoc]

def Ahead (chars : List Char) (s : Progress) (run : List Char) : Prop :=
  run <+: chars.drop s.place

variable {chars front back : List Char} {s : Progress}

theorem ahead_nil : Ahead chars s [] := List.nil_prefix

theorem drop_skip {front rest : List Char} (h : chars.drop s.place = front ++ rest) :
    chars.drop (s.skip front).place = rest := by
  rw [skip, ← List.drop_drop, h, List.drop_left]

theorem ahead_append :
    Ahead chars s (front ++ back) ↔ Ahead chars s front ∧ Ahead chars (s.skip front) back := by
  constructor
  · rintro ⟨rest, h⟩
    rw [List.append_assoc] at h
    refine ⟨⟨back ++ rest, h⟩, ?_⟩
    rw [Ahead, drop_skip h.symm]
    exact List.prefix_append ..
  · rintro ⟨⟨more, h⟩, hback⟩
    rw [Ahead, drop_skip h.symm] at hback
    rw [Ahead, ← h]
    exact (List.prefix_append_right_inj front).2 hback

theorem ahead_cons {c : Char} :
    Ahead chars s (c :: back) ↔ Ahead chars s [c] ∧ Ahead chars (s.skip [c]) back := by
  have h : Ahead chars s ([c] ++ back) ↔ Ahead chars s [c] ∧ Ahead chars (s.skip [c]) back :=
    ahead_append
  exact h

theorem ahead_of_place_eq_zero (hs : s.place = 0) :
    Ahead chars s front ∧ chars.length ≤ (s.skip front).place ↔ chars = front := by
  rw [Ahead, place_skip, hs, List.drop_zero, Nat.zero_add]
  constructor
  · rintro ⟨hfront, hle⟩
    exact (List.IsPrefix.eq_of_length_le hfront hle).symm
  · rintro rfl
    exact ⟨List.prefix_refl _, Nat.le_refl _⟩

theorem Ahead.slice (h : Ahead chars s front) :
    Span.slice ⟨s.place, (s.skip front).place⟩ chars = front := by
  obtain ⟨rest, h⟩ := h
  rw [Span.slice, skip, List.drop_take, ← h, Nat.add_sub_cancel_left, List.take_left]

theorem Ahead.place_le (h : Ahead chars s front) (hne : front ≠ []) :
    s.place + front.length ≤ chars.length := by
  have hle := List.IsPrefix.length_le h
  have hpos := List.length_pos_iff.2 hne
  rw [List.length_drop] at hle
  omega

end Progress

namespace Ways

open Progress

variable {chars : List Char} {s s' : Progress} {v w : Ways} {set : Unicode.CodeSet} {greedy : Bool}

theorem mem_andThen : s' ∈ andThen v w s ↔ ∃ t ∈ v s, s' ∈ w t := List.mem_flatMap

theorem mem_storing {slot : Nat} : s' ∈ storing slot s ↔ s' = s.store slot := List.mem_singleton

theorem mem_gate : s' ∈ gate greedy v w s ↔ s' ∈ v s ∨ s' ∈ w s := by
  cases greedy with
  | true => exact List.mem_append
  | false => exact List.mem_append.trans or_comm

theorem upTo_one (w : Ways) (greedy : Bool) : upTo w greedy 1 = gate greedy w stay := by
  have hone : andThen w (upTo w greedy 0) = w := andThen_stay w
  rw [upTo, hone]

theorem mem_optional : s' ∈ upTo w greedy 1 s ↔ s' ∈ w s ∨ s' = s := by
  rw [upTo_one, mem_gate]
  exact or_congr_right List.mem_singleton

theorem mem_checking {text : Array Char} {a : Anchor} : s' ∈ checking text a s ↔
    a.holds (charBefore text s.place) text[s.place]? = true ∧ s' = s := by
  rw [checking]
  split
  · next h => simp [h]
  · next h => simp [h]

theorem mem_checking_textStart (hs : s.place ≤ chars.length) :
    s' ∈ checking chars.toArray .textStart s ↔ s.place = 0 ∧ s' = s := by
  rw [mem_checking]
  refine and_congr_left fun _ => ?_
  rw [Anchor.holds, charBefore]
  split
  · next h => simp [h]
  · next h =>
    have hlt : s.place - 1 < chars.toArray.size := by
      rw [List.size_toArray]
      omega
    simp [Array.getElem?_eq_getElem hlt, h]

theorem mem_checking_textEnd :
    s' ∈ checking chars.toArray .textEnd s ↔ chars.length ≤ s.place ∧ s' = s := by
  rw [mem_checking]
  refine and_congr_left fun _ => ?_
  rw [Anchor.holds, Option.isNone_iff_eq_none, Array.getElem?_eq_none_iff, List.size_toArray]

theorem taking_eq (chars : List Char) (set : Unicode.CodeSet) (s : Progress) :
    taking chars.toArray set s =
      match chars.drop s.place with
      | [] => []
      | c :: _ => if set.contains c.toNat then [s.skip [c]] else [] := by
  have hget : chars.toArray[s.place]? = (chars.drop s.place).head? := by
    rw [List.head?_drop, List.getElem?_toArray]
  rw [taking, hget]
  cases chars.drop s.place <;> rfl

theorem mem_taking : s' ∈ taking chars.toArray set s ↔
    ∃ c, set.contains c.toNat = true ∧ Ahead chars s [c] ∧ s' = s.skip [c] := by
  simp only [taking_eq, Ahead]
  rcases chars.drop s.place with _ | ⟨d, rest⟩
  · simp
  · simp only [List.cons_prefix_cons, List.nil_prefix, and_true]
    constructor
    · intro h
      split at h
      · next hd => exact ⟨d, hd, rfl, List.mem_singleton.1 h⟩
      · cases h
    · rintro ⟨c, hc, rfl, rfl⟩
      rw [if_pos hc]
      exact List.mem_singleton_self _

theorem mem_upTo_taking {n : Nat} : s' ∈ upTo (taking chars.toArray set) greedy n s ↔
    ∃ run, run.length ≤ n ∧ (∀ c ∈ run, set.contains c.toNat = true) ∧ Ahead chars s run ∧
      s' = s.skip run := by
  induction n generalizing s with
  | zero =>
    constructor
    · intro h
      exact ⟨[], Nat.le_refl _, nofun, ahead_nil, List.mem_singleton.1 h⟩
    · rintro ⟨run, hlength, -, -, rfl⟩
      cases List.length_eq_zero_iff.1 (Nat.le_zero.1 hlength)
      exact List.mem_singleton_self _
  | succ n ih =>
    have hstay : s' ∈ stay s ↔ s' = s := List.mem_singleton
    rw [upTo, mem_gate, mem_andThen, hstay]
    constructor
    · rintro (⟨t, ht, hs⟩ | rfl)
      · obtain ⟨c, hc, hahead, rfl⟩ := mem_taking.1 ht
        obtain ⟨run, hlength, hall, hrun, rfl⟩ := ih.1 hs
        refine ⟨c :: run, Nat.succ_le_succ hlength, ?_, ahead_cons.2 ⟨hahead, hrun⟩, ?_⟩
        · exact List.forall_mem_cons.2 ⟨hc, hall⟩
        · exact (skip_append s [c] run).symm
      · exact ⟨[], Nat.zero_le _, nofun, ahead_nil, rfl⟩
    · rintro ⟨run, hlength, hall, hahead, rfl⟩
      cases run with
      | nil => exact .inr rfl
      | cons c run =>
        obtain ⟨hc, hrun⟩ := ahead_cons.1 hahead
        obtain ⟨hset, hall⟩ := List.forall_mem_cons.1 hall
        refine .inl ⟨s.skip [c], mem_taking.2 ⟨c, hset, hc, rfl⟩, ih.2 ⟨run, ?_, hall, hrun, ?_⟩⟩
        · exact Nat.le_of_succ_le_succ hlength
        · exact skip_append s [c] run

theorem mem_loop_taking : s' ∈ loop chars.toArray (taking chars.toArray set) greedy s ↔
    ∃ run, (∀ c ∈ run, set.contains c.toNat = true) ∧ Ahead chars s run ∧ s' = s.skip run := by
  rw [loop, mem_upTo_taking]
  constructor
  · rintro ⟨run, -, h⟩
    exact ⟨run, h⟩
  · rintro ⟨run, hall, hahead, rfl⟩
    refine ⟨run, ?_, hall, hahead, rfl⟩
    have hle := List.IsPrefix.length_le hahead
    rwa [List.length_drop] at hle

theorem head?_andThen {t : Progress} (hv : (v s).head? = some t) (hw : (w t).head? = some s') :
    (andThen v w s).head? = some s' := by
  obtain ⟨rest, hrest⟩ := List.head?_eq_some_iff.1 hv
  rw [andThen, hrest, List.flatMap_cons, List.head?_append, hw, Option.some_or]

theorem head?_gate : (gate true v w s).head? = (v s).head?.or (w s).head? := List.head?_append

theorem head?_optional_of_some (h : (w s).head? = some s') :
    (upTo w true 1 s).head? = some s' := by
  rw [upTo_one, head?_gate, h, Option.some_or]

theorem head?_optional_of_nil (h : w s = []) : (upTo w true 1 s).head? = some s := by
  rw [upTo_one, head?_gate, h]
  rfl

theorem head?_taking {c : Char} (hc : set.contains c.toNat = true) (h : Ahead chars s [c]) :
    (taking chars.toArray set s).head? = some (s.skip [c]) := by
  obtain ⟨rest, hrest⟩ := h
  rw [taking_eq, ← hrest]
  exact congrArg List.head? (if_pos hc)

theorem taking_eq_nil (h : ∀ c ∈ (chars.drop s.place).head?, set.contains c.toNat = false) :
    taking chars.toArray set s = [] := by
  rw [taking_eq]
  rcases hd : chars.drop s.place with _ | ⟨c, rest⟩
  · rfl
  · have hc : set.contains c.toNat = false := h c (by rw [hd]; rfl)
    simp [hc]

theorem head?_upTo_taking {n : Nat} {run rest : List Char} (hlength : run.length ≤ n)
    (htext : chars.drop s.place = run ++ rest) (hall : ∀ c ∈ run, set.contains c.toNat = true)
    (hrest : ∀ c ∈ rest.head?, set.contains c.toNat = false) :
    (upTo (taking chars.toArray set) true n s).head? = some (s.skip run) := by
  induction n generalizing s run with
  | zero =>
    cases List.length_eq_zero_iff.1 (Nat.le_zero.1 hlength)
    rfl
  | succ n ih =>
    rw [upTo, head?_gate]
    cases run with
    | nil =>
      have hnil : taking chars.toArray set s = [] := by
        apply taking_eq_nil
        rw [htext]
        exact hrest
      rw [andThen, hnil]
      rfl
    | cons c run =>
      obtain ⟨hc, hall⟩ := List.forall_mem_cons.1 hall
      have hahead : Ahead chars s [c] := ⟨run ++ rest, htext.symm⟩
      have hleft : chars.drop (s.skip [c]).place = run ++ rest := drop_skip htext
      have hmore := ih (Nat.le_of_succ_le_succ hlength) hleft hall
      rw [head?_andThen (head?_taking hc hahead) hmore, ← skip_append]
      rfl

theorem head?_loop_taking {run rest : List Char} (htext : chars.drop s.place = run ++ rest)
    (hall : ∀ c ∈ run, set.contains c.toNat = true)
    (hrest : ∀ c ∈ rest.head?, set.contains c.toNat = false) :
    (loop chars.toArray (taking chars.toArray set) true s).head? = some (s.skip run) := by
  refine head?_upTo_taking ?_ htext hall hrest
  have hlength := congrArg List.length htext
  rw [List.length_drop, List.length_append] at hlength
  rw [List.size_toArray]
  omega

end Ways
end ClaimRules.Regex
