import ClaimRules.Proofs.PatternCode
import ClaimRules.Proofs.PatternGroups
import ClaimRules.Proofs.Result

/-! Where matches are. Whatever a regular expression is, loops that take no characters included, its
matches in a text come one after the other: each is inside the text and starts where the one before
it stops, or later. -/

namespace ClaimRules.Regex

def Code.EndsBy (limit : Nat) (code : Code) : Prop :=
  ∀ i ∈ code, i ≠ .accept ∧ ∀ target ∈ i.targets, target ≤ limit

def Contained (body : Nat → Code) : Prop :=
  ∀ start, (body start).EndsBy (start + (body start).length)

/-- Such a property of an instruction in code between two addresses may only limit where it leads and
what it stores. It says no more of wider code. -/
structure Local (P : Nat → Nat → Instruction → Prop) : Prop where
  mono {first last first' last' : Nat} {i : Instruction} (h : P first last i) (hle : first' ≤ first)
    (hle' : last ≤ last') : P first' last' i
  inner {first last : Nat} {i : Instruction} (haccept : i ≠ .accept) (hmark : ∀ slot, i ≠ .mark slot)
    (htargets : ∀ target ∈ i.targets, first ≤ target ∧ target ≤ last) : P first last i

/-- Wherever the code of the body stands, all its instructions have the property. -/
def Everywhere (P : Nat → Nat → Instruction → Prop) (body : Nat → Code) : Prop :=
  ∀ start, ∀ i ∈ body start, P start (start + (body start).length) i

section Everywhere

variable {P : Nat → Nat → Instruction → Prop} {body : Nat → Code} {first last : Nat} {greedy : Bool}

theorem Everywhere.within (h : Everywhere P body) (hP : Local P) {start : Nat} (hle : first ≤ start)
    (hle' : start + (body start).length ≤ last) : ∀ i ∈ body start, P first last i :=
  fun i hi => hP.mono (h start i hi) hle hle'

namespace Local

theorem take (hP : Local P) (set : Unicode.CodeSet) : P first last (.take set) := by
  refine hP.inner (by simp) (by simp) ?_
  simp [Instruction.targets]

theorem gate (hP : Local P) {inside outside : Nat} (hin : first ≤ inside ∧ inside ≤ last)
    (hout : first ≤ outside ∧ outside ≤ last) : P first last (Code.gate greedy inside outside) := by
  cases greedy <;> refine hP.inner nofun nofun ?_ <;> simp [Code.gate, Instruction.targets, hin, hout]

theorem jump (hP : Local P) {target : Nat} (h : first ≤ target ∧ target ≤ last) :
    P first last (.jump target) :=
  hP.inner nofun nofun (by simpa [Instruction.targets] using h)

theorem copies (hP : Local P) (h : Everywhere P body) (n : Nat) :
    Everywhere P (Code.copies body n) := by
  induction n with
  | zero => exact fun _ => nofun
  | succ n ih =>
    intro start
    simp only [Code.copies, List.forall_mem_append, List.length_append]
    exact ⟨h.within hP (by omega) (by omega), ih.within hP (by omega) (by omega)⟩

theorem oneOrMore (hP : Local P) (h : Everywhere P body) (greedy : Bool) :
    Everywhere P (Code.oneOrMore body greedy) := by
  intro start
  simp only [Code.oneOrMore, List.forall_mem_append, List.forall_mem_singleton, List.length_append,
    List.length_singleton]
  exact ⟨h.within hP (by omega) (by omega), hP.gate (by omega) (by omega)⟩

theorem anyNumber (hP : Local P) (h : Everywhere P body) (greedy : Bool) :
    Everywhere P (Code.anyNumber body greedy) := by
  intro start
  simp only [Code.anyNumber, List.cons_append, List.forall_mem_cons, List.forall_mem_append,
    List.length_cons, List.length_append, List.length_nil]
  exact ⟨hP.gate (by omega) (by omega), h.within hP (by omega) (by omega), hP.jump (by omega),
    List.forall_mem_nil _⟩

theorem optionalLoop (hP : Local P) (h : Everywhere P body) (greedy : Bool) :
    Everywhere P (Code.optionalLoop body greedy) := by
  intro start
  simp only [Code.optionalLoop, List.forall_mem_cons, List.length_cons]
  exact ⟨hP.gate (by omega) (by omega), (hP.oneOrMore h greedy).within hP (by omega) (by omega)⟩

theorem atMost (hP : Local P) (h : Everywhere P body) {n start : Nat} (hle : first ≤ start)
    (hout : start + (Code.atMost body greedy last n start).length ≤ last) :
    ∀ i ∈ Code.atMost body greedy last n start, P first last i := by
  induction n generalizing start with
  | zero => exact nofun
  | succ n ih =>
    simp only [Code.atMost, List.cons_append, List.forall_mem_cons, List.forall_mem_append,
      List.length_cons, List.length_append] at hout ⊢
    exact ⟨hP.gate (by omega) (by omega), h.within hP (by omega) (by omega),
      ih (by omega) (by omega)⟩

theorem repetition (hP : Local P) (h : Everywhere P body) (hu : Uniform body)
    (mayBeEmpty greedy : Bool) (least : Nat) (most : Option Nat) :
    Everywhere P (Code.repetition body mayBeEmpty greedy least most) := by
  intro start
  cases most with
  | some most =>
    simp only [Code.repetition, List.forall_mem_append, List.length_append, hu.atMost,
      ← Nat.add_assoc]
    refine ⟨(hP.copies h least).within hP (by omega) (by omega), hP.atMost h (by omega)
      (Nat.le_of_eq ?_)⟩
    rw [hu.atMost]
  | none =>
    cases least with
    | zero =>
      cases mayBeEmpty with
      | true => exact hP.optionalLoop h greedy start
      | false => exact hP.anyNumber h greedy start
    | succ n =>
      simp only [Code.repetition, List.forall_mem_append, List.length_append]
      exact ⟨(hP.copies h n).within hP (by omega) (by omega),
        (hP.oneOrMore h greedy).within hP (by omega) (by omega)⟩

theorem either (hP : Local P) {one others : Nat → Code} (h : Everywhere P one)
    (h' : Everywhere P others) : Everywhere P (Code.either one others) := by
  intro start
  simp only [Code.either, List.forall_mem_cons, List.forall_mem_append, List.length_cons,
    List.length_append]
  refine ⟨?_, h.within hP (by omega) (by omega), hP.jump (by omega),
    h'.within hP (by omega) (by omega)⟩
  refine hP.inner (by simp) (by simp) ?_
  simp [Instruction.targets]
  omega

end Local

namespace Pattern

theorem everywhere_codeOfAll (hP : Local P) {parts : List Pattern}
    (h : ∀ p ∈ parts, Everywhere P (code p)) : Everywhere P (codeOfAll parts) := by
  induction parts with
  | nil => exact fun _ => nofun
  | cons part rest ih =>
    intro start
    have hpart := h part List.mem_cons_self
    have hrest := ih fun p hp => h p (List.mem_cons_of_mem _ hp)
    simp only [codeOfAll, List.forall_mem_append, List.length_append]
    exact ⟨hpart.within hP (by omega) (by omega), hrest.within hP (by omega) (by omega)⟩

theorem everywhere_codeOfAny (hP : Local P) {branches : List Pattern}
    (h : ∀ p ∈ branches, Everywhere P (code p)) : Everywhere P (codeOfAny branches) := by
  induction branches with
  | nil =>
    refine fun _ => List.forall_mem_singleton.2 (hP.inner nofun nofun ?_)
    simp [Instruction.targets]
  | cons branch rest ih =>
    have hbranch := h branch List.mem_cons_self
    have hrest := ih fun p hp => h p (List.mem_cons_of_mem _ hp)
    cases rest with
    | nil => exact hbranch
    | cons other rest =>
      rw [codeOfAny_cons_cons]
      exact hP.either hbranch hrest

theorem everywhere_code (hP : Local P) (p : Pattern)
    (hmark : ∀ g ∈ p.groups, ∀ first last,
      P first last (.mark (2 * g.1)) ∧ P first last (.mark (2 * g.1 + 1))) :
    Everywhere P (code p) := by
  induction p using Pattern.induction with
  | empty => exact fun _ => List.forall_mem_nil _
  | literal text =>
    intro start i hi
    obtain ⟨c, -, rfl⟩ := List.mem_map.1 hi
    exact hP.take _
  | oneOf set => exact fun _ => List.forall_mem_singleton.2 (hP.take set)
  | anchor a =>
    refine fun _ => List.forall_mem_singleton.2 (hP.inner (by simp) (by simp) ?_)
    simp [Instruction.targets]
  | repeated least most greedy body ih =>
    exact hP.repetition (ih hmark) (uniform_code body) _ greedy least most
  | group index name body ih =>
    intro start
    obtain ⟨hown, hinner⟩ := List.forall_mem_cons.1 hmark
    simp only [code, List.cons_append, List.forall_mem_cons, List.forall_mem_append,
      List.length_cons, List.length_append, List.length_nil]
    exact ⟨(hown _ _).1, (ih hinner).within hP (by omega) (by omega), (hown _ _).2,
      List.forall_mem_nil _⟩
  | sequence parts ih =>
    exact everywhere_codeOfAll hP fun p hp => ih p hp fun g hg => hmark g (mem_groupsOfAll.2 ⟨p, hp, hg⟩)
  | choice branches ih =>
    exact everywhere_codeOfAny hP fun p hp => ih p hp fun g hg => hmark g (mem_groupsOfAll.2 ⟨p, hp, hg⟩)

theorem contained_code (p : Pattern) : Contained (code p) := by
  have hP : Local fun _ last i => i ≠ .accept ∧ ∀ target ∈ i.targets, target ≤ last :=
    ⟨fun h _ hle => ⟨h.1, fun target ht => Nat.le_trans (h.2 target ht) hle⟩,
      fun haccept _ htargets => ⟨haccept, fun target ht => (htargets target ht).2⟩⟩
  exact everywhere_code hP p fun g _ _ last => ⟨⟨nofun, nofun⟩, ⟨nofun, nofun⟩⟩

end Pattern

end Everywhere

section Threads

variable {program : Array Instruction} {text : Array Char} {t u : Thread} {i : Instruction}
  {first : Nat}

theorem pc_of_mem_next (hu : u ∈ t.next text i) : u.pc = t.pc + 1 ∨ u.pc ∈ i.targets := by
  rcases next_cases hu with ⟨set, c, -, -, -, rfl⟩ | ⟨a, -, -, rfl⟩ | ⟨slot, -, rfl⟩ |
    ⟨target, htarget, rfl⟩
  · exact .inl rfl
  · exact .inl rfl
  · exact .inl rfl
  · exact .inr htarget

theorem slots_of_mem_next (hu : u ∈ t.next text i) :
    t.place ≤ u.place ∧ (u.slots = t.slots ∨ ∃ slot, i = .mark slot ∧ u.place = t.place ∧
      u.slots = t.slots.set slot (some t.place)) := by
  rcases next_cases hu with ⟨set, c, -, -, -, rfl⟩ | ⟨a, -, -, rfl⟩ | ⟨slot, rfl, rfl⟩ |
    ⟨target, -, rfl⟩
  · exact ⟨Nat.le_succ _, .inl rfl⟩
  · exact ⟨Nat.le_refl _, .inl rfl⟩
  · exact ⟨Nat.le_refl _, .inr ⟨slot, rfl, rfl, rfl⟩⟩
  · exact ⟨Nat.le_refl _, .inl rfl⟩

/-- A thread that set out at a place has stored no places before that one or after its own, and at
the address of the end it has stored its own as the end of the match. -/
structure Thread.Placed (text : Array Char) (first last : Nat) (t : Thread) : Prop where
  place_le : t.place ≤ text.size
  first_le : first ≤ t.place
  stored : ∀ place, some place ∈ t.slots → first ≤ place ∧ place ≤ t.place
  stop : t.pc = last → ∀ place, t.slots[1]? = some (some place) → place = t.place

theorem explore_sound {Q : Thread → Prop} {fuel : Nat} {seen seen' : Array Bool}
    {stack : List Thread} {slots : List (Option Nat)}
    (hstep : ∀ t i u, Q t → program[t.pc]? = some i → u ∈ t.next text i → Q u)
    (hstack : ∀ t ∈ stack, Q t)
    (h : explore program text fuel seen stack = (some slots, seen')) :
    ∃ t, Q t ∧ program[t.pc]? = some .accept ∧ t.slots = slots := by
  induction fuel generalizing seen stack with
  | zero => cases h
  | succ fuel ih =>
    rcases stack with _ | ⟨t, stack⟩
    · cases h
    obtain ⟨ht, hrest⟩ := List.forall_mem_cons.1 hstack
    by_cases hm : Marked text seen t
    · rw [explore_marked hm] at h
      exact ih hrest h
    rcases hpc : program[t.pc]? with _ | i
    · rw [explore_outside hm hpc] at h
      exact ih hrest h
    by_cases hi : i = .accept
    · subst hi
      rw [explore_accept hm hpc] at h
      cases h
      exact ⟨t, ht, hpc, rfl⟩
    · rw [explore_next hm hpc hi] at h
      exact ih (List.forall_mem_append.2 ⟨fun u => hstep t i u ht hpc, hrest⟩) h

theorem exploreFrom_sound {slots count start : Nat} {seen : Array Bool}
    {found : List (Option Nat)} (h : exploreFrom program text slots count seen start = some found) :
    ∃ place fuel seen seen', start ≤ place ∧ place < start + count ∧
      explore program text fuel seen [⟨0, place, List.replicate slots none⟩] =
        (some found, seen') := by
  induction count generalizing start seen with
  | zero => cases h
  | succ count ih =>
    rw [exploreFrom] at h
    split at h
    · next found' seen' he =>
      cases h
      exact ⟨start, _, seen, seen', Nat.le_refl _, by omega, he⟩
    · obtain ⟨place, fuel, seen, seen', hle, hlt, he⟩ := ih h
      exact ⟨place, fuel, seen, seen', by omega, by omega, he⟩

end Threads

structure Match.Inside (text : Array Char) (place : Nat) (m : Match) : Prop where
  place_le : place ≤ m.span.start
  start_le : m.span.start ≤ m.span.stop
  stop_le : m.span.stop ≤ text.size

namespace Pattern

variable {p : Pattern} {text : Array Char} {i : Instruction} {pc : Nat}

def acceptAt (p : Pattern) : Nat := (code p 1).length + 2

theorem program_cases (h : p.program.toArray[pc]? = some i) :
    (pc = 0 ∧ i = .mark 0) ∨ (1 ≤ pc ∧ pc + 1 < p.acceptAt ∧ i ∈ code p 1) ∨
      (pc + 1 = p.acceptAt ∧ i = .mark 1) ∨ (pc = p.acceptAt ∧ i = .accept) := by
  rw [List.getElem?_toArray, program, List.cons_append] at h
  unfold acceptAt
  rcases pc with _ | pc
  · exact .inl ⟨rfl, (Option.some.inj h).symm⟩
  rw [List.getElem?_cons_succ] at h
  by_cases hlt : pc < (code p 1).length
  · rw [List.getElem?_append_left hlt] at h
    exact .inr (.inl ⟨by omega, by omega, List.mem_of_getElem? h⟩)
  · rw [List.getElem?_append_right (by omega)] at h
    rcases hk : pc - (code p 1).length with _ | _ | k
    · rw [hk] at h
      exact .inr (.inr (.inl ⟨by omega, (Option.some.inj h).symm⟩))
    · rw [hk] at h
      exact .inr (.inr (.inr ⟨by omega, (Option.some.inj h).symm⟩))
    · rw [hk] at h
      cases h

theorem pc_eq_acceptAt (h : p.program.toArray[pc]? = some .accept) : pc = p.acceptAt := by
  rcases program_cases h with ⟨-, hi⟩ | ⟨-, -, hi⟩ | ⟨-, hi⟩ | ⟨hpc, -⟩
  · cases hi
  · exact absurd rfl (contained_code p 1 _ hi).1
  · cases hi
  · exact hpc

theorem mark_of_mem_next {t u : Thread} (h : p.program.toArray[t.pc]? = some i)
    (hu : u ∈ t.next text i) (hpc : u.pc = p.acceptAt) : i = .mark 1 := by
  have hnext := pc_of_mem_next hu
  unfold acceptAt at hpc
  rcases program_cases h with ⟨h0, rfl⟩ | ⟨-, hlt, hi⟩ | ⟨-, rfl⟩ | ⟨-, rfl⟩
  · rcases hnext with hnext | hnext
    · omega
    · cases hnext
  · rcases hnext with hnext | hnext
    · unfold acceptAt at hlt
      omega
    · have hle := (contained_code p 1 i hi).2 _ hnext
      omega
  · rfl
  · cases hu

theorem placed_next {first : Nat} {t u : Thread} (ht : t.Placed text first p.acceptAt)
    (h : p.program.toArray[t.pc]? = some i) (hu : u ∈ t.next text i) :
    u.Placed text first p.acceptAt := by
  obtain ⟨hplace, hslots⟩ := slots_of_mem_next hu
  refine ⟨place_le_of_mem_next ht.place_le hu, Nat.le_trans ht.first_le hplace, fun place hm => ?_,
    fun hpc place hs => ?_⟩
  · rcases hslots with hsame | ⟨slot, -, hsame, hset⟩
    · obtain ⟨hle, hle'⟩ := ht.stored place (hsame ▸ hm)
      exact ⟨hle, Nat.le_trans hle' hplace⟩
    · rcases List.mem_or_eq_of_mem_set (hset ▸ hm) with hm | hm
      · exact hsame ▸ ht.stored place hm
      · cases hm
        exact ⟨ht.first_le, hplace⟩
  · cases mark_of_mem_next h hu hpc
    cases List.mem_singleton.1 hu
    rw [List.getElem?_set] at hs
    split at hs
    · split at hs
      · exact (Option.some.inj (Option.some.inj hs)).symm
      · cases hs
    · next hne => exact absurd rfl hne

theorem inside_of_matchFrom? {place : Nat} {m : Match}
    (h : (⟨p.groupNames, p.program.toArray⟩ : Regex).matchFrom? text place = some m) :
    m.Inside text place := by
  unfold matchFrom? at h
  obtain ⟨slots, hslots, h⟩ := Option.bind_eq_some_iff.1 h
  obtain ⟨span, hspan, h⟩ := Option.bind_eq_some_iff.1 h
  cases h
  obtain ⟨first, fuel, seen, seen', hfirst, hlast, he⟩ := exploreFrom_sound hslots
  have hstart (slots : Nat) :
      (⟨0, first, List.replicate slots none⟩ : Thread).Placed text first p.acceptAt := by
    have hsize : first ≤ text.size := by omega
    refine ⟨hsize, Nat.le_refl _, fun place hm => ?_, nofun⟩
    cases (List.mem_replicate.1 hm).2
  obtain ⟨t, ht, hpc, rfl⟩ := explore_sound (fun t i u ht hi hu => placed_next ht hi hu)
    (List.forall_mem_singleton.2 (hstart _)) he
  -- the first two slots hold where the match starts and stops
  unfold spanOfSlots at hspan
  split at hspan
  · next start stop hs hs' =>
    cases hspan
    have hstop : stop = t.place := ht.stop (pc_eq_acceptAt hpc) stop (Option.join_eq_some_iff.1 hs')
    obtain ⟨hle, hle'⟩ := ht.stored start (List.mem_of_getElem? (Option.join_eq_some_iff.1 hs))
    exact ⟨Nat.le_trans hfirst hle, hstop ▸ hle', hstop ▸ ht.place_le⟩
  · cases hspan

end Pattern

def Bounded (re : Regex) : Prop :=
  ∀ (text : Array Char) (place : Nat) (m : Match), re.matchFrom? text place = some m →
    m.Inside text place

theorem exists_of_compile {pattern : String} {re : Regex} (h : compile pattern = .ok re) :
    ∃ e p, Expr.parse pattern = .ok e ∧ e.pattern = .ok p ∧
      re = ⟨p.groupNames, p.program.toArray⟩ := by
  obtain ⟨e, he, h⟩ := bind_eq_ok_iff.1 h
  obtain ⟨p, hp, h⟩ := bind_eq_ok_iff.1 h
  cases h
  exact ⟨e, p, he, hp, rfl⟩

theorem bounded_of_compile {pattern : String} {re : Regex} (h : compile pattern = .ok re) :
    re.Bounded := by
  obtain ⟨-, p, -, -, rfl⟩ := exists_of_compile h
  exact fun _ _ _ => Pattern.inside_of_matchFrom?

/-- The first match after the one that ended at the given place, if there was one. It may be empty,
but not if it would end there, too. -/
def nextMatch? (re : Regex) (text : Array Char) (last : Option Nat) : Option Match :=
  match re.matchFrom? text (last.getD 0) with
  | none => none
  | some m =>
    if m.span.start = m.span.stop ∧ some m.span.stop = last then
      re.matchFrom? text (last.getD 0 + 1)
    else some m

/-- The matches follow one another, and after the last of them there is none. -/
inductive Successive (re : Regex) (text : Array Char) : Option Nat → List Match → Prop where
  | none {last : Option Nat} (h : re.nextMatch? text last = none) : Successive re text last []
  | some {last : Option Nat} {m : Match} {rest : List Match} (h : re.nextMatch? text last = some m)
      (hrest : Successive re text (some m.span.stop) rest) : Successive re text last (m :: rest)

section Succession

variable {re : Regex} {text : Array Char} {last : Option Nat} {m : Match}

theorem matchesAfter_succ (re : Regex) (text : Array Char) (fuel : Nat) (last : Option Nat) :
    re.matchesAfter text (fuel + 1) last =
      match re.nextMatch? text last with
      | none => []
      | some m => m :: re.matchesAfter text fuel (some m.span.stop) := rfl

theorem Bounded.nextMatch? (h : re.Bounded) (hm : re.nextMatch? text last = some m) :
    m.Inside text (last.getD 0) ∧ ∀ place, last = some place → place < m.span.stop := by
  unfold Regex.nextMatch? at hm
  split at hm
  · cases hm
  next found hfound =>
  have hinside := h text _ found hfound
  split at hm
  · -- an empty match where the last one ended is passed over
    have hnext := h text _ m hm
    refine ⟨⟨Nat.le_of_succ_le hnext.place_le, hnext.start_le, hnext.stop_le⟩, ?_⟩
    rintro place rfl
    exact Nat.lt_of_lt_of_le hnext.place_le hnext.start_le
  · next hpassed =>
    cases hm
    refine ⟨hinside, ?_⟩
    rintro place rfl
    have hle : place ≤ m.span.start := hinside.place_le
    have hle' := hinside.start_le
    have hnot : ¬ (m.span.start = m.span.stop ∧ m.span.stop = place) :=
      fun he => hpassed ⟨he.1, congrArg some he.2⟩
    omega

theorem Bounded.successive_matchesAfter (h : re.Bounded) {fuel : Nat}
    (hlast : ∀ place, last = some place → place ≤ text.size)
    (hfuel : text.size + 2 ≤ fuel + (last.map Nat.succ).getD 0) :
    Successive re text last (re.matchesAfter text fuel last) := by
  induction fuel generalizing last with
  | zero =>
    rcases last with _ | place
    · simp at hfuel
    · have hle := hlast place rfl
      simp at hfuel
      omega
  | succ fuel ih =>
    rw [matchesAfter_succ]
    rcases hm : re.nextMatch? text last with _ | m
    · exact .none hm
    · obtain ⟨hinside, hlater⟩ := h.nextMatch? hm
      refine .some hm (ih (fun place hp => Option.some.inj hp ▸ hinside.stop_le) ?_)
      rcases last with _ | place
      · simp at hfuel ⊢
        omega
      · have hlt := hlater place rfl
        simp at hfuel ⊢
        omega

theorem Bounded.successive_matchesIn (h : re.Bounded) (text : List Char) :
    Successive re text.toArray none (re.matchesIn text) :=
  h.successive_matchesAfter nofun (by simp)

end Succession

end ClaimRules.Regex
