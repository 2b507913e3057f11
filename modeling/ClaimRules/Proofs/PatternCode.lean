import ClaimRules.Proofs.PatternWays
import ClaimRules.Proofs.Unfolding

/-! The code of a pattern goes the ways in which the pattern matches, in the same order. So a search finds
the preferred match at the first place that has one. -/

namespace ClaimRules.Regex

variable {program : Array Instruction} {text : Array Char}

def CodeAt (program : Array Instruction) (start : Nat) (code : Code) : Prop :=
  ∀ k i, code[k]? = some i → program[start + k]? = some i

namespace CodeAt

variable {start : Nat} {code rest : Code} {i : Instruction}

theorem head (h : CodeAt program start (i :: rest)) : program[start]? = some i := h 0 i rfl

theorem tail (h : CodeAt program start (i :: rest)) : CodeAt program (start + 1) rest := by
  intro k j hk
  rw [Nat.add_assoc, Nat.add_comm 1]
  exact h (k + 1) j hk

theorem left (h : CodeAt program start (code ++ rest)) : CodeAt program start code := by
  intro k j hk
  apply h k j
  rw [List.getElem?_append_left (List.getElem?_eq_some_iff.1 hk).1]
  exact hk

theorem right (h : CodeAt program start (code ++ rest)) :
    CodeAt program (start + code.length) rest := by
  intro k j hk
  rw [Nat.add_assoc]
  apply h (code.length + k) j
  rw [List.getElem?_append_right (Nat.le_add_right ..), Nat.add_sub_cancel_left]
  exact hk

end CodeAt

def Code.either (first others : Nat → Code) (start : Nat) : Code :=
  let left := first (start + 1)
  let right := others (start + left.length + 2)
  .branch (start + 1) (start + left.length + 2) ::
    (left ++ .jump (start + left.length + right.length + 2) :: right)

theorem Pattern.codeOfAny_cons_cons (branch other : Pattern) (rest : List Pattern) :
    codeOfAny (branch :: other :: rest) = Code.either (code branch) (codeOfAny (other :: rest)) := by
  funext start
  rw [codeOfAny]
  · rfl
  · exact nofun

def Uniform (body : Nat → Code) : Prop := ∀ start, (body start).length = (body 0).length

namespace Uniform

variable {body : Nat → Code}

theorem copies (h : Uniform body) (n start : Nat) :
    (Code.copies body n start).length = n * (body 0).length := by
  induction n generalizing start with
  | zero => simp [Code.copies]
  | succ n ih =>
    rw [Code.copies, List.length_append, ih, h start, Nat.succ_mul, Nat.add_comm]

theorem atMost (h : Uniform body) (greedy : Bool) (outside n start : Nat) :
    (Code.atMost body greedy outside n start).length = n * ((body 0).length + 1) := by
  induction n generalizing start with
  | zero => simp [Code.atMost]
  | succ n ih =>
    rw [Code.atMost, List.cons_append, List.length_cons, List.length_append, ih, h, Nat.succ_mul]
    omega

theorem oneOrMore (h : Uniform body) (greedy : Bool) (start : Nat) :
    (Code.oneOrMore body greedy start).length = (body 0).length + 1 := by
  rw [Code.oneOrMore, List.length_append, h]
  rfl

theorem repetition (h : Uniform body) (mayBeEmpty greedy : Bool) (least : Nat)
    (most : Option Nat) : Uniform (Code.repetition body mayBeEmpty greedy least most) := by
  intro start
  cases most with
  | some most =>
    simp only [Code.repetition, List.length_append, h.copies, h.atMost]
  | none =>
    cases least with
    | zero =>
      cases mayBeEmpty with
      | true => simp [Code.repetition, Code.optionalLoop, h.oneOrMore]
      | false => simp [Code.repetition, Code.anyNumber, h _]
    | succ n => simp only [Code.repetition, List.length_append, h.copies, h.oneOrMore]

theorem either {first others : Nat → Code} (h : Uniform first) (h' : Uniform others) :
    Uniform (Code.either first others) := by
  intro start
  simp only [Code.either, List.length_append, List.length_cons, h (_ + _), h' (_ + _)]

end Uniform

namespace Pattern

theorem uniform_codeOfAll {parts : List Pattern} (h : ∀ p ∈ parts, Uniform (code p)) :
    Uniform (codeOfAll parts) := by
  induction parts with
  | nil => exact fun _ => rfl
  | cons part rest ih =>
    intro start
    have hpart := h part List.mem_cons_self
    have hrest := ih fun p hp => h p (List.mem_cons_of_mem _ hp)
    simp only [codeOfAll, List.length_append, hpart start, hrest (_ + _)]

theorem uniform_codeOfAny {branches : List Pattern} (h : ∀ p ∈ branches, Uniform (code p)) :
    Uniform (codeOfAny branches) := by
  induction branches with
  | nil => exact fun _ => rfl
  | cons branch rest ih =>
    have hbranch := h branch List.mem_cons_self
    have hrest := ih fun p hp => h p (List.mem_cons_of_mem _ hp)
    cases rest with
    | nil => exact hbranch
    | cons other rest =>
      rw [codeOfAny_cons_cons]
      exact hbranch.either hrest

theorem uniform_code (p : Pattern) : Uniform (code p) := by
  induction p using Pattern.induction with
  | repeated least most greedy body ih => exact ih.repetition _ greedy least most
  | group index name body ih =>
    intro start
    simp only [code, List.length_append, List.length_cons, ih (_ + _)]
  | sequence parts ih => exact uniform_codeOfAll ih
  | choice branches ih => exact uniform_codeOfAny ih
  | _ => exact fun _ => rfl

end Pattern

/-- A thread at the first address turns into threads at the second one, in the given ways. -/
def Leads (program : Array Instruction) (text : Array Char) (start stop : Nat) (w : Ways) : Prop :=
  ∀ s, Unfolds program text [s.thread start] ((w s).map fun s' => s'.thread stop)

namespace Leads

variable {start middle stop inside outside : Nat} {v w : Ways} {greedy : Bool}

theorem stay (pc : Nat) : Leads program text pc pc Ways.stay := fun _ => .refl _

theorem taking {set : Unicode.CodeSet} (hpc : program[start]? = some (.take set)) :
    Leads program text start (start + 1) (Ways.taking text set) := by
  intro s
  have hstep : Unfolds program text [s.thread start] ((s.thread start).next text (.take set)) :=
    .next hpc nofun
  have hnext : (s.thread start).next text (.take set) =
      (Ways.taking text set s).map fun s' => s'.thread (start + 1) := by
    simp only [Ways.taking, Thread.next, Progress.thread]
    rcases text[s.place]? with _ | c
    · rfl
    · by_cases hc : set.contains c.toNat = true
      · simp only [if_pos hc, List.map_cons, List.map_nil]
      · simp only [if_neg hc, List.map_nil]
  exact hnext ▸ hstep

theorem checking {a : Anchor} (hpc : program[start]? = some (.check a)) :
    Leads program text start (start + 1) (Ways.checking text a) := by
  intro s
  have hstep : Unfolds program text [s.thread start] ((s.thread start).next text (.check a)) :=
    .next hpc nofun
  have hnext : (s.thread start).next text (.check a) =
      (Ways.checking text a s).map fun s' => s'.thread (start + 1) := by
    by_cases ha : a.holds (charBefore text s.place) text[s.place]? = true
    · rw [Ways.checking, if_pos ha]
      exact if_pos ha
    · rw [Ways.checking, if_neg ha]
      exact if_neg ha
  exact hnext ▸ hstep

theorem storing {slot : Nat} (hpc : program[start]? = some (.mark slot)) :
    Leads program text start (start + 1) (Ways.storing slot) := by
  intro s
  have hstep : Unfolds program text [s.thread start] ((s.thread start).next text (.mark slot)) :=
    .next hpc nofun
  exact hstep

theorem andThen (hv : Leads program text start middle v) (hw : Leads program text middle stop w) :
    Leads program text start stop (Ways.andThen v w) := by
  intro s
  rw [Ways.andThen, List.map_flatMap]
  exact (hv s).trans (.flatMap fun s' _ => hw s')

theorem jump (h : Leads program text start middle w) (hpc : program[middle]? = some (.jump stop)) :
    Leads program text start stop w := by
  have hjump : Leads program text middle stop Ways.stay := by
    intro s
    have hstep : Unfolds program text [s.thread middle] ((s.thread middle).next text (.jump stop)) :=
      .next hpc nofun
    exact hstep
  intro s
  have hall := h.andThen hjump s
  have hstay : Ways.andThen w Ways.stay s = w s := List.flatMap_singleton' (w s)
  rwa [hstay] at hall

theorem unfolds_gate {s : Progress} (us vs : List Progress)
    (hpc : program[start]? = some (Code.gate greedy inside outside))
    (hin : Unfolds program text [s.thread inside] (us.map fun s' => s'.thread stop))
    (hout : Unfolds program text [s.thread outside] (vs.map fun s' => s'.thread stop)) :
    Unfolds program text [s.thread start]
      ((Ways.gate greedy (fun _ => us) (fun _ => vs) s).map fun s' => s'.thread stop) := by
  cases greedy with
  | true =>
    have hstep : Unfolds program text [s.thread start]
        ((s.thread start).next text (.branch inside outside)) :=
      .next hpc nofun
    have hall := hstep.trans (hin.append hout)
    rwa [← List.map_append] at hall
  | false =>
    have hstep : Unfolds program text [s.thread start]
        ((s.thread start).next text (.branch outside inside)) :=
      .next hpc nofun
    have hall := hstep.trans (hout.append hin)
    rwa [← List.map_append] at hall

theorem gate (hpc : program[start]? = some (Code.gate greedy inside outside))
    (hv : Leads program text inside stop v) (hw : Leads program text outside stop w) :
    Leads program text start stop (Ways.gate greedy v w) := by
  intro s
  have h := unfolds_gate (v s) (w s) hpc (hv s) (hw s)
  cases greedy <;> exact h

theorem loop (hpc : program[start]? = some (Code.gate greedy inside outside))
    (hbody : Leads program text inside start w) (hw : w.Take text 1) :
    Leads program text start outside (Ways.loop text w greedy) := by
  have hturns : ∀ n s, text.size ≤ s.place + n → Unfolds program text [s.thread start]
      ((Ways.upTo w greedy n s).map fun s' => s'.thread outside) := by
    intro n
    induction n with
    | zero =>
      intro s hs
      have hnone : w s = [] := by
        refine List.eq_nil_iff_forall_not_mem.2 fun s' hs' => ?_
        have hplace := hw s s' hs'
        omega
      have hin : Unfolds program text [s.thread inside]
          (([] : List Progress).map fun s' => s'.thread outside) := by
        have h := hbody s
        rwa [hnone] at h
      have h := unfolds_gate [] [s] hpc hin (.refl [s.thread outside])
      cases greedy <;> exact h
    | succ n ih =>
      intro s hs
      have hin : Unfolds program text [s.thread inside]
          ((Ways.andThen w (Ways.upTo w greedy n) s).map fun s' => s'.thread outside) := by
        rw [Ways.andThen, List.map_flatMap]
        refine (hbody s).trans (.flatMap fun s' hs' => ih s' ?_)
        have hplace := hw s s' hs'
        omega
      have h := unfolds_gate _ [s] hpc hin (.refl [s.thread outside])
      cases greedy <;> exact h
  exact fun s => hturns _ s (by omega)

end Leads

section Repetition

variable {body : Nat → Code} {w : Ways} {greedy : Bool}

def Implements (program : Array Instruction) (text : Array Char) (body : Nat → Code) (w : Ways) :
    Prop :=
  ∀ start, CodeAt program start (body start) →
    Leads program text start (start + (body start).length) w

theorem Implements.copies (h : Implements program text body w) (n : Nat) :
    Implements program text (Code.copies body n) (Ways.times w n) := by
  induction n with
  | zero => exact fun start _ => .stay start
  | succ n ih =>
    intro start hcode
    rw [Code.copies] at hcode ⊢
    rw [List.length_append, ← Nat.add_assoc]
    exact (h start hcode.left).andThen (ih _ hcode.right)

theorem Implements.atMost (h : Implements program text body w) (hu : Uniform body)
    {n start outside : Nat} (hout : outside = start + n * ((body 0).length + 1))
    (hcode : CodeAt program start (Code.atMost body greedy outside n start)) :
    Leads program text start outside (Ways.upTo w greedy n) := by
  induction n generalizing start with
  | zero =>
    rw [hout, Nat.zero_mul]
    exact .stay start
  | succ n ih =>
    rw [Code.atMost] at hcode
    have hlength := hu (start + 1)
    have hafter : start + 1 + (body (start + 1)).length = start + (body (start + 1)).length + 1 :=
      Nat.add_right_comm ..
    have hrest := hcode.tail.right
    rw [hafter] at hrest
    have hout' : outside = start + (body (start + 1)).length + 1 + n * ((body 0).length + 1) := by
      rw [hout, hlength, Nat.succ_mul]
      omega
    have hbody := h (start + 1) hcode.tail.left
    rw [hafter] at hbody
    exact .gate hcode.head (hbody.andThen (ih hout' hrest)) (.stay outside)

theorem Implements.anyNumber (h : Implements program text body w) (hw : w.Take text 1) :
    Implements program text (Code.anyNumber body greedy) (Ways.loop text w greedy) := by
  intro start hcode
  rw [Code.anyNumber] at hcode
  have hbody := h (start + 1) hcode.tail.left
  have hback := hbody.jump hcode.tail.right.head
  have hlength : start + (Code.anyNumber body greedy start).length =
      start + (body (start + 1)).length + 2 := by
    simp [Code.anyNumber]
    omega
  rw [hlength]
  exact .loop hcode.head hback hw

theorem Implements.oneOrMore (h : Implements program text body w) (hw : w.Take text 1) :
    Implements program text (Code.oneOrMore body greedy)
      (Ways.andThen w (Ways.loop text w greedy)) := by
  intro start hcode
  have hbody := h start hcode.left
  have hloop := Leads.loop hcode.right.head hbody hw
  have hlength : start + (Code.oneOrMore body greedy start).length =
      start + (body start).length + 1 := by
    simp [Code.oneOrMore]
    omega
  rw [hlength]
  exact hbody.andThen hloop

theorem Implements.either {first others : Nat → Code} {v : Ways}
    (h : Implements program text first v) (h' : Implements program text others w) :
    Implements program text (Code.either first others) (Ways.either v w) := by
  intro start hcode
  rw [Code.either] at hcode
  have hleft := (h (start + 1) hcode.tail.left).jump hcode.tail.right.head
  have hafter : start + 1 + (first (start + 1)).length + 1 =
      start + (first (start + 1)).length + 2 := by
    omega
  have hothers := hcode.tail.right.tail
  rw [hafter] at hothers
  have hright := h' _ hothers
  rw [Nat.add_right_comm _ 2] at hright
  have hlength : start + (Code.either first others start).length =
      start + (first (start + 1)).length +
        (others (start + (first (start + 1)).length + 2)).length + 2 := by
    simp [Code.either]
    omega
  have hgate : program[start]? =
      some (Code.gate true (start + 1) (start + (first (start + 1)).length + 2)) :=
    hcode.head
  rw [hlength]
  exact .gate hgate hleft hright

end Repetition

namespace Pattern

theorem implements_codeOfAll {parts : List Pattern} (hadv : allAdvance parts = true)
    (h : ∀ p ∈ parts, advances p = true → Implements program text (code p) (ways text p)) :
    Implements program text (codeOfAll parts) (waysOfAll text parts) := by
  induction parts with
  | nil => exact fun start _ => .stay start
  | cons part rest ih =>
    obtain ⟨hpart, hrest⟩ := Bool.and_eq_true_iff.1 hadv
    have hall := ih hrest fun p hp => h p (List.mem_cons_of_mem _ hp)
    intro start hcode
    rw [codeOfAll] at hcode ⊢
    rw [List.length_append, ← Nat.add_assoc]
    exact (h part List.mem_cons_self hpart start hcode.left).andThen (hall _ hcode.right)

theorem implements_codeOfAny {branches : List Pattern} (hadv : allAdvance branches = true)
    (h : ∀ p ∈ branches, advances p = true → Implements program text (code p) (ways text p)) :
    Implements program text (codeOfAny branches) (waysOfAny text branches) := by
  induction branches with
  | nil =>
    intro start hcode
    have hnone : Ways.taking text [] = waysOfAny text [] := by
      funext s
      unfold Ways.taking
      rcases text[s.place]? with _ | c <;> rfl
    exact hnone ▸ Leads.taking hcode.head
  | cons branch rest ih =>
    obtain ⟨hbranch, hrest⟩ := Bool.and_eq_true_iff.1 hadv
    have hfirst := h branch List.mem_cons_self hbranch
    have hothers := ih hrest fun p hp => h p (List.mem_cons_of_mem _ hp)
    cases rest with
    | nil =>
      have hone : waysOfAny text [branch] = ways text branch := by
        funext s
        exact List.append_nil _
      rwa [hone]
    | cons other rest =>
      rw [codeOfAny_cons_cons]
      exact hfirst.either hothers

theorem exists_leastLength {body : Pattern} (h : takes body = true) :
    ∃ n, leastLength body = some (n + 1) := by
  unfold takes at h
  split at h
  · next n hn => exact ⟨n, hn⟩
  · cases h

theorem implements_repetition {least : Nat} {most : Option Nat} {greedy : Bool} {body : Pattern}
    (hadv : (most.isSome || takes body) = true)
    (h : Implements program text (code body) (ways text body)) :
    Implements program text (code (.repeated least most greedy body))
      (ways text (.repeated least most greedy body)) := by
  have hu := uniform_code body
  cases most with
  | some most =>
    intro start hcode
    simp only [code, Code.repetition] at hcode ⊢
    simp only [List.length_append, hu.atMost]
    rw [← Nat.add_assoc]
    exact ((h.copies least) start hcode.left).andThen (h.atMost hu rfl hcode.right)
  | none =>
    obtain ⟨n, hn⟩ := exists_leastLength hadv
    have hw : (ways text body).Take text 1 := (take_ways body _ hn).mono (by omega)
    cases least with
    | zero =>
      have hcode : code (.repeated 0 none greedy body) = Code.anyNumber (code body) greedy := by
        funext start
        simp only [code, hn]
        rfl
      have hways : ways text (.repeated 0 none greedy body) =
          Ways.loop text (ways text body) greedy :=
        Ways.stay_andThen _
      rw [hcode, hways]
      exact h.anyNumber hw
    | succ n =>
      have hways : ways text (.repeated (n + 1) none greedy body) =
          Ways.andThen (Ways.times (ways text body) n)
            (Ways.andThen (ways text body) (Ways.loop text (ways text body) greedy)) := by
        rw [← Ways.andThen_assoc, ← Ways.times_succ]
        rfl
      intro start hcode
      simp only [code, Code.repetition] at hcode ⊢
      rw [hways, List.length_append, ← Nat.add_assoc]
      exact ((h.copies n) start hcode.left).andThen (h.oneOrMore hw _ hcode.right)

theorem implements_literal (chars : List Char) :
    Implements program text (code (.literal chars)) (ways text (.literal chars)) := by
  induction chars with
  | nil => exact fun start _ => .stay start
  | cons c chars ih =>
    intro start hcode
    have hrest := ih (start + 1) hcode.tail
    have hlength : start + (code (.literal (c :: chars)) start).length =
        start + 1 + (code (.literal chars) (start + 1)).length := by
      simp [code]
      omega
    rw [hlength]
    exact (Leads.taking hcode.head).andThen hrest

theorem implements_group {body : Pattern} (index : Nat) (name : Option String)
    (h : Implements program text (code body) (ways text body)) :
    Implements program text (code (.group index name body))
      (ways text (.group index name body)) := by
  intro start hcode
  have hbody := h (start + 1) hcode.left.tail
  have hlast : program[start + 1 + (code body (start + 1)).length]? =
      some (.mark (2 * index + 1)) := by
    have h := hcode.right.head
    rwa [List.length_cons, Nat.add_comm _ 1, ← Nat.add_assoc] at h
  have hlength : start + (code (.group index name body) start).length =
      start + 1 + (code body (start + 1)).length + 1 := by
    simp [code]
    omega
  rw [hlength]
  exact (Leads.storing hcode.left.head).andThen (hbody.andThen (Leads.storing hlast))

/-- The code of a pattern goes the ways in which the pattern matches, in the same order. -/
theorem implements_code (p : Pattern) :
    advances p = true → Implements program text (code p) (ways text p) := by
  induction p using Pattern.induction with
  | empty => exact fun _ start _ => .stay start
  | literal chars => exact fun _ => implements_literal chars
  | oneOf set => exact fun _ start hcode => .taking hcode.head
  | anchor a => exact fun _ start hcode => .checking hcode.head
  | repeated least most greedy body ih =>
    intro hadv
    obtain ⟨htakes, hbody⟩ := Bool.and_eq_true_iff.1 hadv
    exact implements_repetition htakes (ih hbody)
  | group index name body ih => exact fun hadv => implements_group index name (ih hadv)
  | sequence parts ih => exact fun hadv => implements_codeOfAll hadv ih
  | choice branches ih => exact fun hadv => implements_codeOfAny hadv ih

def whole (text : Array Char) (p : Pattern) : Ways :=
  Ways.andThen (Ways.storing 0) (Ways.andThen (ways text p) (Ways.storing 1))

def bestAt (text : Array Char) (p : Pattern) (place : Nat) : Option (List (Option Nat)) :=
  (whole text p ⟨place, List.replicate (2 * p.groupNames.length) none⟩).head?.map Progress.slots

theorem codeAt_program (p : Pattern) : CodeAt p.program.toArray 0 p.program := by
  intro k i hk
  rwa [Nat.zero_add, List.getElem?_toArray]

theorem comes_program {p : Pattern} (hadv : advances p = true) (s : Progress) :
    Comes p.program.toArray text (s.thread 0) ((whole text p s).head?.map Progress.slots) := by
  have hcode := codeAt_program p
  have hfirst := hcode.left.head
  have himplements : Implements p.program.toArray text (code p) (ways text p) :=
    implements_code p hadv
  have hbody := himplements 1 hcode.left.tail
  have hafter := hcode.right
  rw [List.length_cons, Nat.zero_add, Nat.add_comm] at hafter
  have hleads := (Leads.storing hfirst).andThen (hbody.andThen (.storing hafter.head)) s
  have haccept : p.program.toArray[1 + (code p 1).length + 1]? = some .accept := hafter.tail.head
  have hcomes := hleads.comes fun u hu => by
    obtain ⟨s', -, rfl⟩ := List.mem_map.1 hu
    exact haccept
  rw [List.head?_map, Option.map_map] at hcomes
  exact hcomes

theorem matchFrom?_program {p : Pattern} (hadv : advances p = true) (place : Nat) :
    (⟨p.groupNames, p.program.toArray⟩ : Regex).matchFrom? text place =
      ((List.range' place (text.size + 1 - place)).findSome? (bestAt text p)).bind fun slots =>
        (spanOfSlots slots 0).map fun span =>
          ⟨span, (List.range p.groupNames.length).map (spanOfSlots slots)⟩ :=
  matchFrom?_eq place fun place _ => comes_program hadv ⟨place, _⟩

theorem matchFrom?_of_bestAt {p : Pattern} (hadv : advances p = true) {place : Nat}
    {slots : List (Option Nat)} (hplace : place ≤ text.size) (h : bestAt text p place = some slots) :
    (⟨p.groupNames, p.program.toArray⟩ : Regex).matchFrom? text place =
      (spanOfSlots slots 0).map fun span =>
        ⟨span, (List.range p.groupNames.length).map (spanOfSlots slots)⟩ := by
  have hcount : text.size + 1 - place = text.size - place + 1 := by omega
  rw [matchFrom?_program hadv, hcount, List.range'_succ, List.findSome?_cons, h, Option.bind_some]

theorem matchFrom?_succ {p : Pattern} (hadv : advances p = true) {place : Nat}
    (hplace : place ≤ text.size) (h : bestAt text p place = none) :
    (⟨p.groupNames, p.program.toArray⟩ : Regex).matchFrom? text place =
      (⟨p.groupNames, p.program.toArray⟩ : Regex).matchFrom? text (place + 1) := by
  have hcount : text.size + 1 - place = text.size - place + 1 := by omega
  have hrest : text.size + 1 - (place + 1) = text.size - place := by omega
  rw [matchFrom?_program hadv, matchFrom?_program hadv, hcount, hrest, List.range'_succ,
    List.findSome?_cons, h]

theorem matchFrom?_eq_none {p : Pattern} (hadv : advances p = true) {place : Nat}
    (h : ∀ q, place ≤ q → q ≤ text.size → bestAt text p q = none) :
    (⟨p.groupNames, p.program.toArray⟩ : Regex).matchFrom? text place = none := by
  have hnone : (List.range' place (text.size + 1 - place)).findSome? (bestAt text p) = none := by
    refine List.findSome?_eq_none_iff.2 fun q hq => ?_
    obtain ⟨hfirst, hlast⟩ := List.mem_range'_1.1 hq
    exact h q hfirst (by omega)
  rw [matchFrom?_program hadv, hnone, Option.bind_none]

end Pattern

theorem compile_eq_ok {text : String} {p : Pattern}
    (h : (do (← Expr.parse text).pattern) = .ok p) :
    compile text = .ok ⟨p.groupNames, p.program.toArray⟩ := by
  rw [compile]
  rcases he : Expr.parse text with fault | e
  · rw [he] at h
    cases h
  · rw [he] at h
    have hp : e.pattern = .ok p := h
    simp [bind, Except.bind, hp]
    rfl

theorem compile_of_parse {text : String} {e : Expr} {p : Pattern} (he : Expr.parse text = .ok e)
    (hp : e.pattern = .ok p) :
    compile text = .ok ⟨p.groupNames, p.program.toArray⟩ := by
  refine compile_eq_ok ?_
  rw [he]
  exact hp

end ClaimRules.Regex
