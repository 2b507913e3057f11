import ClaimRules.Proofs.ExhaustiveSearch
import ClaimRules.Proofs.PatternCode

/-! Which parts of a text a pattern can take. The relation is told by the pattern alone, without an order
of preference, and covers every pattern. The code of a pattern leads from one place to another exactly
if the pattern can take what is between them. -/

namespace ClaimRules.Regex

inductive Turns (R : Nat → Nat → Prop) : Nat → Nat → Nat → Prop where
  | none (i : Nat) : Turns R 0 i i
  | turn {n i j k : Nat} (h : R i j) (hrest : Turns R n j k) : Turns R (n + 1) i k

namespace Pattern

mutual

/-- The pattern can take the part of the text from one place up to another. -/
def Spans (text : Array Char) : Pattern → Nat → Nat → Prop
  | .empty => fun i j => j = i
  | .literal chars => fun i j => chars <+: text.toList.drop i ∧ j = i + chars.length
  | .oneOf set => fun i j => (∃ c, text[i]? = some c ∧ set.contains c.toNat = true) ∧ j = i + 1
  | .anchor a => fun i j => a.holds (charBefore text i) text[i]? = true ∧ j = i
  | .repeated least most _ body => fun i j =>
    ∃ n, least ≤ n ∧ (∀ m ∈ most, n ≤ max least m) ∧ Turns (Spans text body) n i j
  | .group _ _ body => Spans text body
  | .sequence parts => SpansAll text parts
  | .choice branches => SpansAny text branches

def SpansAll (text : Array Char) : List Pattern → Nat → Nat → Prop
  | [] => fun i j => j = i
  | part :: rest => fun i k => ∃ j, Spans text part i j ∧ SpansAll text rest j k

def SpansAny (text : Array Char) : List Pattern → Nat → Nat → Prop
  | [] => fun _ _ => False
  | branch :: rest => fun i j => Spans text branch i j ∨ SpansAny text rest i j

end

end Pattern

variable {program : Array Instruction} {text : Array Char} {R S : Nat → Nat → Prop}
  {start middle stop : Nat} {greedy : Bool}

namespace Turns

variable {n m i j k : Nat}

theorem append (h : Turns R n i j) (h' : Turns R m j k) : Turns R (n + m) i k := by
  induction h with
  | none => rwa [Nat.zero_add]
  | turn h _ ih =>
    rw [Nat.add_right_comm]
    exact .turn h (ih h')

theorem exists_append (h : Turns R (n + m) i k) : ∃ j, Turns R n i j ∧ Turns R m j k := by
  induction n generalizing i with
  | zero => exact ⟨i, .none i, by rwa [Nat.zero_add] at h⟩
  | succ n ih =>
    rw [Nat.add_right_comm] at h
    cases h with
    | turn h hrest =>
      obtain ⟨j, hfront, hback⟩ := ih hrest
      exact ⟨j, .turn h hfront, hback⟩

end Turns

/-- Whoever sets out at the first address and leaves the code comes by the second one, and the places
there are related; and all related places are reached. -/
structure Carries (program : Array Instruction) (text : Array Char) (start stop : Nat)
    (R : Nat → Nat → Prop) : Prop where
  leaves : ∀ n t v, t.pc = start → Path program text n t v → ¬ (start ≤ v.pc ∧ v.pc < stop) →
    ∃ m u, m ≤ n ∧ u.pc = stop ∧ R t.place u.place ∧ Path program text m u v
  arrives : ∀ t j, t.pc = start → R t.place j →
    ∃ n u, u.pc = stop ∧ u.place = j ∧ Path program text n t u

theorem fetch {t : Thread} {i : Instruction} (hpc : program[start]? = some i) (ht : t.pc = start) :
    program[t.pc]? = some i := by
  rw [ht]
  exact hpc

theorem mem_next_gate {t u : Thread} {inside outside : Nat} :
    u ∈ t.next text (Code.gate greedy inside outside) ↔
      u = { t with pc := inside } ∨ u = { t with pc := outside } := by
  cases greedy
  · simp [Code.gate, Thread.next, or_comm]
  · simp [Code.gate, Thread.next]

namespace Carries

theorem congr (h : Carries program text start stop R) (hRS : ∀ i j, R i j ↔ S i j) :
    Carries program text start stop S := by
  have heq : R = S := funext fun i => funext fun j => propext (hRS i j)
  exact heq ▸ h

theorem stay (pc : Nat) : Carries program text pc pc fun i j => j = i where
  leaves n t _ ht hpath _ := ⟨n, t, Nat.le_refl n, ht, rfl, hpath⟩
  arrives t _ ht hj := ⟨0, t, ht, hj.symm, .refl t⟩

theorem instruction {i : Instruction} (hpc : program[start]? = some i)
    (hnext : ∀ t : Thread, t.pc = start → ∀ u ∈ t.next text i, u.pc = start + 1 ∧ R t.place u.place)
    (hall : ∀ (t : Thread) j, t.pc = start → R t.place j →
      ∃ u ∈ t.next text i, u.pc = start + 1 ∧ u.place = j) :
    Carries program text start (start + 1) R where
  leaves n t v ht hpath hout := by
    obtain ⟨m, u, rfl, hu, hpath⟩ := hpath.exists_step (fetch hpc ht) (by omega)
    obtain ⟨hpc', hR⟩ := hnext t ht u hu
    exact ⟨m, u, Nat.le_succ m, hpc', hR, hpath⟩
  arrives t j ht hR := by
    obtain ⟨u, hu, hpc', hplace⟩ := hall t j ht hR
    exact ⟨1, u, hpc', hplace, .step (fetch hpc ht) hu (.refl u)⟩

theorem taking {set : Unicode.CodeSet} (hpc : program[start]? = some (.take set)) :
    Carries program text start (start + 1) (Pattern.Spans text (.oneOf set)) := by
  refine .instruction hpc (fun t ht u hu => ?_) fun t j ht hR => ?_
  · rw [Thread.next] at hu
    split at hu
    · next c hc =>
      split at hu
      · next hset =>
        cases List.mem_singleton.1 hu
        exact ⟨congrArg (· + 1) ht, ⟨c, hc, hset⟩, rfl⟩
      · cases hu
    · cases hu
  · obtain ⟨⟨c, hc, hset⟩, rfl⟩ := hR
    refine ⟨⟨t.pc + 1, t.place + 1, t.slots⟩, ?_, congrArg (· + 1) ht, rfl⟩
    simp only [Thread.next, hc, hset, if_true, List.mem_singleton]

theorem checking {a : Anchor} (hpc : program[start]? = some (.check a)) :
    Carries program text start (start + 1) (Pattern.Spans text (.anchor a)) := by
  refine .instruction hpc (fun t ht u hu => ?_) fun t j ht hR => ?_
  · rw [Thread.next] at hu
    split at hu
    · next ha =>
      cases List.mem_singleton.1 hu
      exact ⟨congrArg (· + 1) ht, ha, rfl⟩
    · cases hu
  · obtain ⟨ha, rfl⟩ := hR
    refine ⟨{ t with pc := t.pc + 1 }, ?_, congrArg (· + 1) ht, rfl⟩
    simp only [Thread.next, ha, if_true, List.mem_singleton]

theorem storing {slot : Nat} (hpc : program[start]? = some (.mark slot)) :
    Carries program text start (start + 1) fun i j => j = i := by
  refine .instruction hpc (fun t ht u hu => ?_) fun t j ht hR => ?_
  · cases List.mem_singleton.1 hu
    exact ⟨congrArg (· + 1) ht, rfl⟩
  · exact ⟨_, List.mem_singleton_self _, congrArg (· + 1) ht, hR.symm⟩

theorem andThen (h : Carries program text start middle R) (h' : Carries program text middle stop S)
    (hle : start ≤ middle) (hle' : middle ≤ stop) :
    Carries program text start stop fun i k => ∃ j, R i j ∧ S j k where
  leaves n t v ht hpath hout := by
    obtain ⟨m, u, hm, hu, hR, hpath⟩ := h.leaves n t v ht hpath (by omega)
    obtain ⟨k, w, hk, hw, hS, hpath⟩ := h'.leaves m u v hu hpath (by omega)
    exact ⟨k, w, Nat.le_trans hk hm, hw, ⟨u.place, hR, hS⟩, hpath⟩
  arrives t k ht hRS := by
    obtain ⟨j, hR, hS⟩ := hRS
    obtain ⟨n, u, hu, rfl, hpath⟩ := h.arrives t j ht hR
    obtain ⟨m, w, hw, hplace, hpath'⟩ := h'.arrives u k hu hS
    exact ⟨n + m, w, hw, hplace, hpath.trans hpath'⟩

theorem optional (hpc : program[start]? = some (Code.gate greedy (start + 1) stop))
    (h : Carries program text (start + 1) stop R) (hle : start < stop) :
    Carries program text start stop fun i j => j = i ∨ R i j where
  leaves n t v ht hpath hout := by
    obtain ⟨m, u, rfl, hu, hpath⟩ := hpath.exists_step (fetch hpc ht) (by omega)
    rcases mem_next_gate.1 hu with rfl | rfl
    · obtain ⟨k, w, hk, hw, hR, hpath⟩ := h.leaves m _ v rfl hpath (by omega)
      exact ⟨k, w, Nat.le_succ_of_le hk, hw, .inr hR, hpath⟩
    · exact ⟨m, { t with pc := stop }, Nat.le_succ m, rfl, .inl rfl, hpath⟩
  arrives t j ht hR := by
    rcases hR with rfl | hR
    · exact ⟨1, { t with pc := stop }, rfl, rfl,
        .step (fetch hpc ht) (mem_next_gate.2 (.inr rfl)) (.refl _)⟩
    · obtain ⟨n, u, hu, hplace, hpath⟩ := h.arrives { t with pc := start + 1 } j rfl hR
      exact ⟨n + 1, u, hu, hplace, .step (fetch hpc ht) (mem_next_gate.2 (.inl rfl)) hpath⟩

theorem loop (h : Carries program text start middle R)
    (hpc : program[middle]? = some (Code.gate greedy start (middle + 1))) (hle : start ≤ middle) :
    Carries program text start (middle + 1) fun i j => ∃ n, Turns R (n + 1) i j where
  leaves n := by
    -- each turn passes the gate, so the rest of the path gets shorter
    induction n using Nat.strongRecOn with
    | ind n ih =>
      intro t v ht hpath hout
      obtain ⟨m, u, hm, hu, hR, hpath⟩ := h.leaves n t v ht hpath (by omega)
      obtain ⟨k, w, rfl, hw, hpath⟩ := hpath.exists_step (fetch hpc hu) (by omega)
      rcases mem_next_gate.1 hw with rfl | rfl
      · obtain ⟨k', w, hk, hw, ⟨turns, hturns⟩, hpath⟩ := ih k hm _ v rfl hpath hout
        exact ⟨k', w, by omega, hw, ⟨turns + 1, .turn hR hturns⟩, hpath⟩
      · exact ⟨k, { u with pc := middle + 1 }, by omega, rfl, ⟨0, .turn hR (.none _)⟩, hpath⟩
  arrives t j ht hR := by
    obtain ⟨n, hturns⟩ := hR
    induction n generalizing t with
    | zero =>
      cases hturns with
      | turn hR hnone =>
        cases hnone
        obtain ⟨n, u, hu, rfl, hpath⟩ := h.arrives t _ ht hR
        exact ⟨n + 1, { u with pc := middle + 1 }, rfl, rfl,
          hpath.snoc (fetch hpc hu) (mem_next_gate.2 (.inr rfl))⟩
    | succ n ih =>
      cases hturns with
      | turn hR hrest =>
        obtain ⟨m, u, hu, rfl, hpath⟩ := h.arrives t _ ht hR
        obtain ⟨k, w, hw, hplace, hpath'⟩ := ih { u with pc := start } rfl hrest
        exact ⟨m + 1 + k, w, hw, hplace,
          (hpath.snoc (fetch hpc hu) (mem_next_gate.2 (.inl rfl))).trans hpath'⟩

theorem loopBack (hpc : program[start]? = some (Code.gate greedy (start + 1) (middle + 1)))
    (h : Carries program text (start + 1) middle R)
    (hback : program[middle]? = some (.jump start)) (hle : start < middle) :
    Carries program text start (middle + 1) fun i j => ∃ n, Turns R n i j where
  leaves n := by
    induction n using Nat.strongRecOn with
    | ind n ih =>
      intro t v ht hpath hout
      obtain ⟨m, u, rfl, hu, hpath⟩ := hpath.exists_step (fetch hpc ht) (by omega)
      rcases mem_next_gate.1 hu with rfl | rfl
      · obtain ⟨k, w, hk, hw, hR, hpath⟩ := h.leaves m _ v rfl hpath (by omega)
        obtain ⟨k, x, rfl, hx, hpath⟩ := hpath.exists_step (fetch hback hw) (by omega)
        cases List.mem_singleton.1 hx
        obtain ⟨k', x, hk', hx, ⟨turns, hturns⟩, hpath⟩ := ih k (by omega) _ v rfl hpath hout
        exact ⟨k', x, by omega, hx, ⟨turns + 1, .turn hR hturns⟩, hpath⟩
      · exact ⟨m, { t with pc := middle + 1 }, Nat.le_succ m, rfl, ⟨0, .none _⟩, hpath⟩
  arrives t j ht hR := by
    obtain ⟨n, hturns⟩ := hR
    induction n generalizing t with
    | zero =>
      cases hturns
      exact ⟨1, { t with pc := middle + 1 }, rfl, rfl,
        .step (fetch hpc ht) (mem_next_gate.2 (.inr rfl)) (.refl _)⟩
    | succ n ih =>
      cases hturns with
      | turn hR hrest =>
        obtain ⟨m, u, hu, rfl, hpath⟩ := h.arrives { t with pc := start + 1 } _ rfl hR
        obtain ⟨k, w, hw, hplace, hpath'⟩ := ih { u with pc := start } rfl hrest
        have hturn : Path program text (m + 1 + 1) t { u with pc := start } :=
          (Path.step (fetch hpc ht) (mem_next_gate.2 (.inl rfl)) hpath).snoc (fetch hback hu)
            (List.mem_singleton_self _)
        exact ⟨m + 1 + 1 + k, w, hw, hplace, hturn.trans hpath'⟩

theorem either {left right : Nat} (hpc : program[start]? = some (.branch (start + 1) right))
    (h : Carries program text (start + 1) left R) (hjump : program[left]? = some (.jump stop))
    (h' : Carries program text right stop S) (hle : start < left) (hright : right = left + 1)
    (hle' : right ≤ stop) : Carries program text start stop fun i j => R i j ∨ S i j where
  leaves n t v ht hpath hout := by
    obtain ⟨m, u, rfl, hu, hpath⟩ := hpath.exists_step (fetch hpc ht) (by omega)
    rcases List.mem_cons.1 hu with rfl | hu
    · obtain ⟨k, w, hk, hw, hR, hpath⟩ :=
        h.leaves m { t with pc := start + 1 } v rfl hpath (by omega)
      obtain ⟨k, x, rfl, hx, hpath⟩ := hpath.exists_step (fetch hjump hw) (by omega)
      cases List.mem_singleton.1 hx
      exact ⟨k, { w with pc := stop }, by omega, rfl, .inl hR, hpath⟩
    · cases List.mem_singleton.1 hu
      obtain ⟨k, w, hk, hw, hS, hpath⟩ := h'.leaves m _ v rfl hpath (by omega)
      exact ⟨k, w, by omega, hw, .inr hS, hpath⟩
  arrives t j ht hRS := by
    rcases hRS with hR | hS
    · obtain ⟨n, u, hu, rfl, hpath⟩ := h.arrives { t with pc := start + 1 } j rfl hR
      have hfirst : Path program text (n + 1) t u := .step (fetch hpc ht) List.mem_cons_self hpath
      exact ⟨n + 1 + 1, { u with pc := stop }, rfl, rfl,
        hfirst.snoc (fetch hjump hu) (List.mem_singleton_self _)⟩
    · obtain ⟨n, u, hu, hplace, hpath⟩ := h'.arrives { t with pc := right } j rfl hS
      exact ⟨n + 1, u, hu, hplace,
        .step (fetch hpc ht) (List.mem_cons_of_mem _ List.mem_cons_self) hpath⟩

end Carries

/-- Wherever the code of the body stands, it leads from place to place as the relation says. -/
def Realizes (program : Array Instruction) (text : Array Char) (body : Nat → Code)
    (R : Nat → Nat → Prop) : Prop :=
  ∀ start, CodeAt program start (body start) →
    Carries program text start (start + (body start).length) R

namespace Realizes

variable {body : Nat → Code}

theorem copies (h : Realizes program text body R) (n : Nat) :
    Realizes program text (Code.copies body n) (Turns R n) := by
  induction n with
  | zero =>
    refine fun start _ => (Carries.stay start).congr fun i j => ?_
    constructor
    · rintro rfl
      exact .none _
    · rintro ⟨⟩
      rfl
  | succ n ih =>
    intro start hcode
    rw [Code.copies] at hcode ⊢
    rw [List.length_append, ← Nat.add_assoc]
    have hall := (h start hcode.left).andThen (ih _ hcode.right) (by omega) (by omega)
    refine hall.congr fun i j => ⟨?_, ?_⟩
    · rintro ⟨k, hR, hrest⟩
      exact .turn hR hrest
    · rintro ⟨⟩
      exact ⟨_, ‹_›, ‹_›⟩

theorem atMost (h : Realizes program text body R) (hu : Uniform body) {n outside : Nat}
    (hout : outside = start + n * ((body 0).length + 1))
    (hcode : CodeAt program start (Code.atMost body greedy outside n start)) :
    Carries program text start outside fun i j => ∃ k ≤ n, Turns R k i j := by
  induction n generalizing start with
  | zero =>
    rw [Nat.zero_mul, Nat.add_zero] at hout
    subst hout
    refine (Carries.stay outside).congr fun i j => ⟨?_, ?_⟩
    · rintro rfl
      exact ⟨0, Nat.le_refl 0, .none _⟩
    · rintro ⟨k, hk, hturns⟩
      cases Nat.le_zero.1 hk
      cases hturns
      rfl
  | succ n ih =>
    rw [Code.atMost] at hcode
    have hlength := hu (start + 1)
    have hafter : start + 1 + (body (start + 1)).length = start + (body (start + 1)).length + 1 :=
      Nat.add_right_comm ..
    have hrest := hcode.tail.right
    rw [hafter] at hrest
    rw [Nat.succ_mul] at hout
    have hbody := h (start + 1) hcode.tail.left
    rw [hafter] at hbody
    have hmore := ih (by omega) hrest
    have hall := (hbody.andThen hmore (by omega) (by omega)).optional hcode.head (by omega)
    refine hall.congr fun i j => ⟨?_, ?_⟩
    · rintro (rfl | ⟨k, hR, m, hm, hturns⟩)
      · exact ⟨0, Nat.zero_le _, .none _⟩
      · exact ⟨m + 1, Nat.succ_le_succ hm, .turn hR hturns⟩
    · rintro ⟨k, hk, hturns⟩
      cases hturns with
      | none => exact .inl rfl
      | turn hR hrest => exact .inr ⟨_, hR, _, Nat.le_of_succ_le_succ hk, hrest⟩

theorem oneOrMore (h : Realizes program text body R) :
    Realizes program text (Code.oneOrMore body greedy) fun i j => ∃ n, Turns R (n + 1) i j := by
  intro start hcode
  rw [Code.oneOrMore] at hcode ⊢
  rw [List.length_append, ← Nat.add_assoc]
  exact (h start hcode.left).loop hcode.right.head (by omega)

theorem anyNumber (h : Realizes program text body R) :
    Realizes program text (Code.anyNumber body greedy) fun i j => ∃ n, Turns R n i j := by
  intro start hcode
  rw [Code.anyNumber] at hcode
  have hlength : start + (Code.anyNumber body greedy start).length =
      start + 1 + (body (start + 1)).length + 1 := by
    simp [Code.anyNumber]
    omega
  have hgate := hcode.head
  have hafter : start + (body (start + 1)).length + 2 =
      start + 1 + (body (start + 1)).length + 1 := by
    omega
  rw [hafter] at hgate
  rw [hlength]
  exact .loopBack hgate (h (start + 1) hcode.tail.left) hcode.tail.right.head (by omega)

theorem optionalLoop (h : Realizes program text body R) :
    Realizes program text (Code.optionalLoop body greedy) fun i j => ∃ n, Turns R n i j := by
  intro start hcode
  rw [Code.optionalLoop] at hcode
  have hlength : start + (Code.optionalLoop body greedy start).length =
      start + (Code.oneOrMore body greedy (start + 1)).length + 1 := by
    simp [Code.optionalLoop]
    omega
  have hloop := oneOrMore h (start + 1) hcode.tail
  rw [Nat.add_right_comm] at hloop
  rw [hlength]
  refine (hloop.optional hcode.head (by omega)).congr fun i j => ⟨?_, ?_⟩
  · rintro (rfl | ⟨n, hturns⟩)
    · exact ⟨0, .none _⟩
    · exact ⟨n + 1, hturns⟩
  · rintro ⟨_ | n, hturns⟩
    · cases hturns
      exact .inl rfl
    · exact .inr ⟨n, hturns⟩

theorem either {first others : Nat → Code} (h : Realizes program text first R)
    (h' : Realizes program text others S) :
    Realizes program text (Code.either first others) fun i j => R i j ∨ S i j := by
  intro start hcode
  rw [Code.either] at hcode
  have hafter : start + 1 + (first (start + 1)).length + 1 =
      start + (first (start + 1)).length + 2 := by
    omega
  have hothers := hcode.tail.right.tail
  rw [hafter] at hothers
  have hlength : start + (Code.either first others start).length =
      start + (first (start + 1)).length + 2 +
        (others (start + (first (start + 1)).length + 2)).length := by
    simp [Code.either]
    omega
  have hjump := hcode.tail.right.head
  rw [Nat.add_right_comm _ _ 2] at hjump
  rw [hlength]
  exact .either hcode.head (h (start + 1) hcode.tail.left) hjump (h' _ hothers) (by omega)
    hafter.symm (by omega)

theorem repetition (h : Realizes program text body R) (hu : Uniform body) (mayBeEmpty greedy : Bool)
    (least : Nat) (most : Option Nat) :
    Realizes program text (Code.repetition body mayBeEmpty greedy least most) fun i j =>
      ∃ n, least ≤ n ∧ (∀ m ∈ most, n ≤ max least m) ∧ Turns R n i j := by
  intro start hcode
  cases most with
  | some most =>
    simp only [Code.repetition] at hcode ⊢
    have hsize := hu.atMost greedy
      (start + (Code.copies body least start).length + (most - least) * ((body 0).length + 1))
      (most - least) (start + (Code.copies body least start).length)
    rw [List.length_append, hsize, ← Nat.add_assoc]
    refine ((h.copies least start hcode.left).andThen (h.atMost hu rfl hcode.right) (by omega)
      (by omega)).congr fun i j => ⟨?_, ?_⟩
    · rintro ⟨k, hfirst, m, hm, hrest⟩
      refine ⟨least + m, Nat.le_add_right .., ?_, hfirst.append hrest⟩
      rintro _ ⟨⟩
      omega
    · rintro ⟨n, hle, hmost, hturns⟩
      have hbound := hmost most rfl
      obtain ⟨m, rfl⟩ := Nat.exists_eq_add_of_le hle
      obtain ⟨k, hfirst, hrest⟩ := hturns.exists_append
      exact ⟨k, hfirst, m, by omega, hrest⟩
  | none =>
    have hall {n : Nat} : ∀ m ∈ (none : Option Nat), n ≤ max least m := by
      rintro _ ⟨⟩
    cases least with
    | zero =>
      have hloop : Carries program text start
          (start + (Code.repetition body mayBeEmpty greedy 0 none start).length)
            fun i j => ∃ n, Turns R n i j := by
        cases mayBeEmpty with
        | true => exact h.optionalLoop start hcode
        | false => exact h.anyNumber start hcode
      refine hloop.congr fun i j => ⟨?_, ?_⟩
      · rintro ⟨n, hturns⟩
        exact ⟨n, Nat.zero_le n, hall, hturns⟩
      · rintro ⟨n, -, -, hturns⟩
        exact ⟨n, hturns⟩
    | succ least =>
      simp only [Code.repetition] at hcode ⊢
      rw [List.length_append, ← Nat.add_assoc]
      refine ((h.copies least start hcode.left).andThen (h.oneOrMore _ hcode.right) (by omega)
        (by omega)).congr fun i j => ⟨?_, ?_⟩
      · rintro ⟨k, hfirst, n, hrest⟩
        exact ⟨least + (n + 1), by omega, hall, hfirst.append hrest⟩
      · rintro ⟨n, hle, -, hturns⟩
        obtain ⟨m, rfl⟩ := Nat.exists_eq_add_of_le hle
        rw [Nat.add_right_comm, Nat.add_assoc] at hturns
        obtain ⟨k, hfirst, hrest⟩ := hturns.exists_append
        exact ⟨k, hfirst, m, hrest⟩

end Realizes

namespace Pattern

theorem realizes_codeOfAll {parts : List Pattern}
    (h : ∀ p ∈ parts, Realizes program text (code p) (Spans text p)) :
    Realizes program text (codeOfAll parts) (SpansAll text parts) := by
  induction parts with
  | nil => exact fun start _ => .stay start
  | cons part rest ih =>
    intro start hcode
    have hall := ih fun p hp => h p (List.mem_cons_of_mem _ hp)
    rw [codeOfAll] at hcode ⊢
    rw [List.length_append, ← Nat.add_assoc]
    exact (h part List.mem_cons_self start hcode.left).andThen (hall _ hcode.right) (by omega)
      (by omega)

theorem realizes_codeOfAny {branches : List Pattern}
    (h : ∀ p ∈ branches, Realizes program text (code p) (Spans text p)) :
    Realizes program text (codeOfAny branches) (SpansAny text branches) := by
  induction branches with
  | nil =>
    -- a set without members lets nothing through
    refine fun start hcode => (Carries.taking hcode.head).congr fun i j => ⟨?_, False.elim⟩
    rintro ⟨⟨c, -, hset⟩, -⟩
    cases hset
  | cons branch rest ih =>
    have hbranch := h branch List.mem_cons_self
    have hothers := ih fun p hp => h p (List.mem_cons_of_mem _ hp)
    cases rest with
    | nil => exact fun start hcode => (hbranch start hcode).congr fun i j => (or_false _).symm.to_iff
    | cons other rest =>
      rw [codeOfAny_cons_cons]
      exact hbranch.either hothers

theorem spans_literal_cons {c : Char} {chars : List Char} {i k : Nat} :
    Spans text (.literal (c :: chars)) i k ↔
      ∃ j, Spans text (.oneOf (.single c.toNat)) i j ∧ Spans text (.literal chars) j k := by
  have hdrop {d : Char} (hd : text[i]? = some d) :
      text.toList.drop i = d :: text.toList.drop (i + 1) := by
    rw [← Array.getElem?_toList] at hd
    obtain ⟨hlt, rfl⟩ := List.getElem?_eq_some_iff.1 hd
    exact List.drop_eq_getElem_cons hlt
  constructor
  · rintro ⟨hfront, rfl⟩
    obtain ⟨rest, hrest⟩ := hfront
    have hd : text[i]? = some c := by
      rw [← Array.getElem?_toList, ← Nat.add_zero i, ← List.getElem?_drop, ← hrest]
      rfl
    refine ⟨i + 1, ⟨⟨c, hd, contains_single.2 rfl⟩, rfl⟩, ⟨rest, ?_⟩, ?_⟩
    · rw [hdrop hd] at hrest
      exact (List.cons.inj hrest).2
    · rw [List.length_cons, Nat.add_assoc, Nat.add_comm 1]
  · rintro ⟨_, ⟨⟨d, hd, hset⟩, rfl⟩, hfront, rfl⟩
    cases contains_single.1 hset
    refine ⟨?_, ?_⟩
    · rw [hdrop hd]
      exact List.cons_prefix_cons.2 ⟨rfl, hfront⟩
    · rw [List.length_cons, Nat.add_assoc, Nat.add_comm 1]

theorem realizes_literal (chars : List Char) :
    Realizes program text (code (.literal chars)) (Spans text (.literal chars)) := by
  induction chars with
  | nil =>
    refine fun start _ => (Carries.stay start).congr fun i j => ?_
    simp [Spans]
  | cons c chars ih =>
    intro start hcode
    have hlength : start + (code (.literal (c :: chars)) start).length =
        start + 1 + (code (.literal chars) (start + 1)).length := by
      simp [code]
      omega
    rw [hlength]
    exact ((Carries.taking hcode.head).andThen (ih (start + 1) hcode.tail) (by omega)
      (by omega)).congr fun i k => spans_literal_cons.symm

theorem realizes_code (p : Pattern) : Realizes program text (code p) (Spans text p) := by
  induction p using Pattern.induction with
  | empty => exact fun start _ => .stay start
  | literal chars => exact realizes_literal chars
  | oneOf set => exact fun start hcode => .taking hcode.head
  | anchor a => exact fun start hcode => .checking hcode.head
  | repeated least most greedy body ih =>
    exact ih.repetition (uniform_code body) _ greedy least most
  | group index name body ih =>
    intro start hcode
    rw [code] at hcode ⊢
    have hlength : start + (Instruction.mark (2 * index) :: code body (start + 1) ++
        [Instruction.mark (2 * index + 1)]).length =
          start + 1 + (code body (start + 1)).length + 1 := by
      simp
      omega
    rw [hlength]
    have hbody := ih (start + 1) hcode.tail.left
    refine (((Carries.storing hcode.head).andThen hbody (by omega) (by omega)).andThen
      (.storing hcode.tail.right.head) (by omega) (by omega)).congr fun i j =>
        ⟨?_, fun h => ⟨j, ⟨i, rfl, h⟩, rfl⟩⟩
    rintro ⟨_, ⟨_, rfl, h⟩, rfl⟩
    exact h
  | sequence parts ih => exact realizes_codeOfAll ih
  | choice branches ih => exact realizes_codeOfAny ih

end Pattern
end ClaimRules.Regex
