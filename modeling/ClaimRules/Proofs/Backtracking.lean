import ClaimRules.Regex.Basic

/-! Backtracking. The search for a match passes over the pairs of instruction and place that it met
before. It still finds what a search without a memory would find, if that one comes to an end. -/

namespace ClaimRules.Regex

def Thread.spot (t : Thread) : Nat × Nat := (t.pc, t.place)

theorem Thread.pc_eq {t u : Thread} (h : t.spot = u.spot) : t.pc = u.pc := congrArg Prod.fst h

/-- Whatever a thread leads to, no match comes of it. -/
inductive Dead (program : Array Instruction) (text : Array Char) : Thread → Prop where
  | outside {t} : program[t.pc]? = none → Dead program text t
  | step {t i} : program[t.pc]? = some i → i ≠ .accept →
      (∀ u ∈ t.next text i, Dead program text u) → Dead program text t

/-- The preferred match that a thread leads to has stored these places, and is at most so many steps
away. -/
inductive Live (program : Array Instruction) (text : Array Char) :
    Nat → Thread → List (Option Nat) → Prop where
  | accept {n t} : program[t.pc]? = some .accept → Live program text n t t.slots
  | step {n t i failed u rest slots} : program[t.pc]? = some i → i ≠ .accept →
      t.next text i = failed ++ u :: rest → (∀ v ∈ failed, Dead program text v) →
      Live program text n u slots → Live program text (n + 1) t slots

variable {program : Array Instruction} {text : Array Char} {t u : Thread}

theorem length_next_le (t : Thread) (i : Instruction) : (t.next text i).length ≤ 2 := by
  cases i with
  | take set =>
    simp only [Thread.next]
    split
    · split <;> simp
    · simp
  | check a =>
    simp only [Thread.next]
    split <;> simp
  | _ => simp [Thread.next]

def Instruction.targets : Instruction → List Nat
  | .jump next => [next]
  | .branch first second => [first, second]
  | _ => []

theorem next_cases {i : Instruction} (hu : u ∈ t.next text i) :
    (∃ set c, i = .take set ∧ text[t.place]? = some c ∧ set.contains c.toNat = true ∧
        u = ⟨t.pc + 1, t.place + 1, t.slots⟩) ∨
      (∃ a, i = .check a ∧ a.holds (charBefore text t.place) text[t.place]? = true ∧
        u = { t with pc := t.pc + 1 }) ∨
      (∃ slot, i = .mark slot ∧ u = ⟨t.pc + 1, t.place, t.slots.set slot (some t.place)⟩) ∨
      ∃ target ∈ i.targets, u = { t with pc := target } := by
  cases i with
  | accept => cases hu
  | take set =>
    simp only [Thread.next] at hu
    split at hu
    · next c hc =>
      split at hu
      · next hset => exact .inl ⟨set, c, rfl, hc, hset, List.mem_singleton.1 hu⟩
      · cases hu
    · cases hu
  | check a =>
    simp only [Thread.next] at hu
    split at hu
    · next ha => exact .inr (.inl ⟨a, rfl, ha, List.mem_singleton.1 hu⟩)
    · cases hu
  | mark slot => exact .inr (.inr (.inl ⟨slot, rfl, List.mem_singleton.1 hu⟩))
  | jump target => exact .inr (.inr (.inr ⟨target, List.mem_cons_self, List.mem_singleton.1 hu⟩))
  | branch first second =>
    rcases List.mem_cons.1 hu with hu | hu
    · exact .inr (.inr (.inr ⟨first, List.mem_cons_self, hu⟩))
    · exact .inr (.inr (.inr
        ⟨second, List.mem_cons_of_mem _ List.mem_cons_self, List.mem_singleton.1 hu⟩))

theorem place_le_of_mem_next {i : Instruction} (ht : t.place ≤ text.size)
    (hu : u ∈ t.next text i) : u.place ≤ text.size := by
  rcases next_cases hu with ⟨set, c, -, hc, -, rfl⟩ | ⟨a, -, -, rfl⟩ | ⟨slot, -, rfl⟩ |
    ⟨target, -, rfl⟩
  · exact (Array.getElem?_eq_some_iff.1 hc).1
  all_goals exact ht

theorem map_spot_next (h : t.spot = u.spot) (i : Instruction) :
    (t.next text i).map Thread.spot = (u.next text i).map Thread.spot := by
  obtain ⟨pc, place, slots⟩ := t
  obtain ⟨pc', place', slots'⟩ := u
  cases h
  cases i with
  | take set =>
    simp only [Thread.next]
    split
    · split <;> rfl
    · rfl
  | check a =>
    simp only [Thread.next]
    split <;> rfl
  | _ => rfl

theorem Dead.of_spot (h : Dead program text t) (hs : t.spot = u.spot) : Dead program text u := by
  induction h generalizing u with
  | outside hpc => exact .outside (Thread.pc_eq hs ▸ hpc)
  | step hpc hi hnext ih =>
    refine .step (Thread.pc_eq hs ▸ hpc) hi fun v hv => ?_
    have hmem : v.spot ∈ (u.next text _).map Thread.spot := List.mem_map_of_mem hv
    rw [← map_spot_next hs] at hmem
    obtain ⟨w, hw, hspot⟩ := List.mem_map.1 hmem
    exact ih w hw hspot

theorem Live.of_spot {n : Nat} {slots : List (Option Nat)} (h : Live program text n t slots)
    (hs : t.spot = u.spot) : ∃ slots', Live program text n u slots' := by
  induction h generalizing u with
  | accept hpc => exact ⟨u.slots, .accept (Thread.pc_eq hs ▸ hpc)⟩
  | @step n t i failed v rest slots hpc hi hnext hfailed hlive ih =>
    have hmap : (u.next text i).map Thread.spot =
        failed.map Thread.spot ++ v.spot :: rest.map Thread.spot := by
      rw [← map_spot_next hs, hnext, List.map_append, List.map_cons]
    obtain ⟨failed', left, hnext', hfailed', hleft⟩ := List.map_eq_append_iff.1 hmap
    obtain ⟨w, rest', rfl, hw, -⟩ := List.map_eq_cons_iff.1 hleft
    obtain ⟨slots', hslots⟩ := ih hw.symm
    have hdead : ∀ d ∈ failed', Dead program text d := by
      intro d hd
      have hmem : d.spot ∈ failed.map Thread.spot := hfailed' ▸ List.mem_map_of_mem hd
      obtain ⟨c, hc, hspot⟩ := List.mem_map.1 hmem
      exact (hfailed c hc).of_spot hspot
    exact ⟨slots', .step (Thread.pc_eq hs ▸ hpc) hi hnext' hdead hslots⟩

theorem Live.mono {n m : Nat} {slots : List (Option Nat)} (h : Live program text n t slots)
    (hle : n ≤ m) : Live program text m t slots := by
  induction h generalizing m with
  | accept hpc => exact .accept hpc
  | step hpc hi hnext hfailed _ ih =>
    cases m with
    | zero => omega
    | succ m => exact .step hpc hi hnext hfailed (ih (by omega))

theorem Dead.not_live (h : Dead program text t) {n : Nat} {slots : List (Option Nat)} :
    ¬ Live program text n t slots := by
  induction h generalizing n slots with
  | outside hpc =>
    rintro (hpc' | hpc')
    · cases hpc.symm.trans hpc'
    · cases hpc.symm.trans hpc'
  | step hpc hi hnext ih =>
    intro hl
    cases hl with
    | accept hpc' => exact hi (Option.some.inj (hpc.symm.trans hpc'))
    | step hpc' _ hnext' _ hlive =>
      cases hpc.symm.trans hpc'
      refine ih _ ?_ hlive
      rw [hnext']
      exact List.mem_append_right _ List.mem_cons_self

theorem eq_of_first {α : Type} {P : α → Prop} {front front' rest rest' : List α} {a b : α}
    (h : front ++ a :: rest = front' ++ b :: rest') (hfront : ∀ c ∈ front, P c)
    (hfront' : ∀ c ∈ front', P c) (ha : ¬ P a) (hb : ¬ P b) : a = b := by
  induction front generalizing front' with
  | nil =>
    cases front' with
    | nil => exact (List.cons.inj h).1
    | cons c front' =>
      cases h
      exact absurd (hfront' _ List.mem_cons_self) ha
  | cons c front ih =>
    cases front' with
    | nil =>
      cases h
      exact absurd (hfront _ List.mem_cons_self) hb
    | cons d front' =>
      have hrest : front ++ a :: rest = front' ++ b :: rest' := (List.cons.inj h).2
      exact ih hrest (fun c hc => hfront c (List.mem_cons_of_mem _ hc))
        fun c hc => hfront' c (List.mem_cons_of_mem _ hc)

theorem Live.unique {n m : Nat} {slots slots' : List (Option Nat)}
    (h : Live program text n t slots) (h' : Live program text m t slots') : slots = slots' := by
  induction h generalizing m slots' with
  | accept hpc =>
    cases h' with
    | accept => rfl
    | step hpc' hi => exact absurd (Option.some.inj (hpc'.symm.trans hpc)) hi
  | step hpc hi hnext hfailed hlive ih =>
    cases h' with
    | accept hpc' => exact absurd (Option.some.inj (hpc.symm.trans hpc')) hi
    | step hpc' _ hnext' hfailed' hlive' =>
      cases hpc.symm.trans hpc'
      have hu := eq_of_first (hnext.symm.trans hnext') hfailed hfailed' (fun hd => hd.not_live hlive)
        fun hd => hd.not_live hlive'
      subst hu
      exact ih hlive'

/-- The search has met the instruction and the place of the thread, or they are out of its reach. -/
def Marked (text : Array Char) (seen : Array Bool) (t : Thread) : Prop :=
  seen.getD (t.pc * (text.size + 1) + t.place) true = true

def unseen (seen : Array Bool) : Nat := seen.count false

def mark (text : Array Char) (seen : Array Bool) (t : Thread) : Array Bool :=
  seen.setIfInBounds (t.pc * (text.size + 1) + t.place) true

/-- What a search has met in between leads to no match. -/
def Grows (program : Array Instruction) (text : Array Char) (seen seen' : Array Bool) : Prop :=
  ∀ t, t.place ≤ text.size → Marked text seen' t → Marked text seen t ∨ Dead program text t

variable {seen seen' : Array Bool} {stack : List Thread} {fuel : Nat}

theorem Grows.refl (seen : Array Bool) : Grows program text seen seen := fun _ _ h => .inl h

theorem Grows.trans {seen'' : Array Bool} (h : Grows program text seen seen')
    (h' : Grows program text seen' seen'') : Grows program text seen seen'' := by
  intro t ht hm
  rcases h' t ht hm with hm | hd
  · exact h t ht hm
  · exact .inr hd

theorem spot_eq_of_key (ht : t.place ≤ text.size) (hu : u.place ≤ text.size)
    (h : t.pc * (text.size + 1) + t.place = u.pc * (text.size + 1) + u.place) : t.spot = u.spot := by
  have hpc {v : Thread} (hv : v.place ≤ text.size) :
      (v.pc * (text.size + 1) + v.place) / (text.size + 1) = v.pc := by
    rw [Nat.mul_comm, Nat.mul_add_div (Nat.succ_pos _), Nat.div_eq_of_lt (Nat.lt_succ_of_le hv),
      Nat.add_zero]
  have heq : t.pc = u.pc := by rw [← hpc ht, h, hpc hu]
  have hplace : t.place = u.place := by
    rw [heq] at h
    exact Nat.add_left_cancel h
  rw [Thread.spot, Thread.spot, heq, hplace]

theorem marked_mark (ht : t.place ≤ text.size) (hu : u.place ≤ text.size)
    (h : Marked text (mark text seen t) u) : Marked text seen u ∨ t.spot = u.spot := by
  by_cases hkey : t.pc * (text.size + 1) + t.place = u.pc * (text.size + 1) + u.place
  · exact .inr (spot_eq_of_key ht hu hkey)
  · left
    rw [Marked, mark, Array.getD_eq_getD_getElem?, Array.getElem?_setIfInBounds, if_neg hkey,
      ← Array.getD_eq_getD_getElem?] at h
    exact h

theorem unseen_mark (h : ¬ Marked text seen t) : unseen (mark text seen t) + 1 = unseen seen := by
  rw [Marked, Array.getD_eq_getD_getElem?] at h
  rw [unseen, unseen, mark]
  generalize t.pc * (text.size + 1) + t.place = key at h ⊢
  have hget : seen[key]? = some false := by
    rcases hs : seen[key]? with _ | b
    · simp [hs] at h
    · cases b
      · rfl
      · simp [hs] at h
  obtain ⟨hlt, hfalse⟩ := Array.getElem?_eq_some_iff.1 hget
  have hpos : 0 < seen.count false := Array.count_pos_iff.2 (hfalse ▸ Array.getElem_mem hlt)
  have hcount : (seen.set key true hlt).count false = seen.count false - 1 := by
    rw [Array.count_set, hfalse]
    rfl
  rw [Array.setIfInBounds_def, dif_pos hlt, hcount]
  omega

theorem explore_marked (h : Marked text seen t) :
    explore program text (fuel + 1) seen (t :: stack) = explore program text fuel seen stack :=
  if_pos h

theorem explore_outside (h : ¬ Marked text seen t) (hpc : program[t.pc]? = none) :
    explore program text (fuel + 1) seen (t :: stack) =
      explore program text fuel (mark text seen t) stack := by
  refine (if_neg h).trans ?_
  simp only [hpc]
  rfl

theorem explore_accept (h : ¬ Marked text seen t) (hpc : program[t.pc]? = some .accept) :
    explore program text (fuel + 1) seen (t :: stack) = (some t.slots, mark text seen t) := by
  refine (if_neg h).trans ?_
  simp only [hpc]
  rfl

theorem explore_next {i : Instruction} (h : ¬ Marked text seen t) (hpc : program[t.pc]? = some i)
    (hi : i ≠ .accept) :
    explore program text (fuel + 1) seen (t :: stack) =
      explore program text fuel (mark text seen t) (t.next text i ++ stack) := by
  refine (if_neg h).trans ?_
  simp only [hpc]
  cases i with
  | accept => exact absurd rfl hi
  | _ => rfl

/-- Enough fuel for all that is on the stack, and all that may be put there for pairs that have not been
met. -/
def Fuelled (fuel : Nat) (seen : Array Bool) (stack : List Thread) : Prop :=
  2 * unseen seen + stack.length ≤ fuel

theorem Fuelled.exists_succ (h : Fuelled fuel seen (t :: stack)) : ∃ n, fuel = n + 1 := by
  simp only [Fuelled, List.length_cons] at h
  exact ⟨fuel - 1, by omega⟩

theorem Fuelled.tail (h : Fuelled (fuel + 1) seen (t :: stack)) : Fuelled fuel seen stack := by
  simp only [Fuelled, List.length_cons] at h ⊢
  omega

theorem Fuelled.mark_next {i : Instruction} (h : Fuelled (fuel + 1) seen (t :: stack))
    (hm : ¬ Marked text seen t) : Fuelled fuel (mark text seen t) (t.next text i ++ stack) := by
  have hunseen := unseen_mark hm
  have hnext : (t.next text i).length ≤ 2 := length_next_le t i
  simp only [Fuelled, List.length_append, List.length_cons] at h ⊢
  omega

/-- The search goes past the threads without a match, to what is on the stack below them. -/
def Passed (program : Array Instruction) (text : Array Char) (threads : List Thread) : Prop :=
  ∀ fuel seen stack, Fuelled fuel seen (threads ++ stack) →
    ∃ fuel' seen', Fuelled fuel' seen' stack ∧ Grows program text seen seen' ∧
      explore program text fuel seen (threads ++ stack) = explore program text fuel' seen' stack

theorem passed_nil : Passed program text [] :=
  fun fuel seen _ h => ⟨fuel, seen, h, .refl seen, rfl⟩

theorem Passed.cons {threads : List Thread} (h : Passed program text [t])
    (hs : Passed program text threads) : Passed program text (t :: threads) := by
  intro fuel seen stack hfuel
  obtain ⟨fuel', seen', hfuel', hgrows, heq⟩ := h fuel seen (threads ++ stack) hfuel
  obtain ⟨fuel'', seen'', hfuel'', hgrows', heq'⟩ := hs fuel' seen' stack hfuel'
  exact ⟨fuel'', seen'', hfuel'', hgrows.trans hgrows', heq.trans heq'⟩

theorem passed_of_forall {threads : List Thread} (h : ∀ t ∈ threads, Passed program text [t]) :
    Passed program text threads := by
  induction threads with
  | nil => exact passed_nil
  | cons t threads ih =>
    have hrest : Passed program text threads := ih fun u hu => h u (List.mem_cons_of_mem _ hu)
    exact (h t List.mem_cons_self).cons hrest

theorem Dead.grows_mark (h : Dead program text t) (ht : t.place ≤ text.size) :
    Grows program text seen (mark text seen t) := by
  intro u hu hm
  rcases marked_mark ht hu hm with hm | hspot
  · exact .inl hm
  · exact .inr (h.of_spot hspot)

theorem Dead.passed_of_next (h : Dead program text t) (ht : t.place ≤ text.size)
    (hnext : ∀ i, program[t.pc]? = some i → i ≠ .accept ∧ Passed program text (t.next text i)) :
    Passed program text [t] := by
  intro fuel seen stack hfuel
  obtain ⟨fuel, rfl⟩ := hfuel.exists_succ
  by_cases hm : Marked text seen t
  · exact ⟨fuel, seen, hfuel.tail, .refl seen, explore_marked hm⟩
  have hfuel' {i : Instruction} : Fuelled fuel (mark text seen t) (t.next text i ++ stack) :=
    hfuel.mark_next hm
  rcases hpc : program[t.pc]? with _ | i
  · have hrest : Fuelled fuel (mark text seen t) stack := hfuel' (i := .accept)
    exact ⟨fuel, mark text seen t, hrest, h.grows_mark ht, explore_outside hm hpc⟩
  · obtain ⟨hi, hpassed⟩ := hnext i hpc
    obtain ⟨fuel', seen', hrest, hgrows, heq⟩ := hpassed fuel (mark text seen t) stack hfuel'
    exact ⟨fuel', seen', hrest, (h.grows_mark ht).trans hgrows,
      (explore_next hm hpc hi).trans heq⟩

theorem Dead.passed (h : Dead program text t) (ht : t.place ≤ text.size) :
    Passed program text [t] := by
  induction h with
  | outside hpc =>
    have hdead : Dead program text _ := .outside hpc
    exact hdead.passed_of_next ht fun i hi => nomatch hpc.symm.trans hi
  | @step t i hpc hi hnext ih =>
    have hdead := Dead.step hpc hi hnext
    refine hdead.passed_of_next ht fun j hj => ?_
    cases hpc.symm.trans hj
    exact ⟨hi, passed_of_forall fun u hu => ih u hu (place_le_of_mem_next ht hu)⟩

/-- No thread at an instruction and place that the search has met leads to a match in so few steps. -/
def Fresh (program : Array Instruction) (text : Array Char) (n : Nat) (seen : Array Bool) : Prop :=
  ∀ t, t.place ≤ text.size → Marked text seen t → ∀ slots, ¬ Live program text n t slots

theorem Fresh.mono {n m : Nat} (h : Fresh program text n seen) (hle : m ≤ n) :
    Fresh program text m seen :=
  fun t ht hm slots hl => h t ht hm slots (hl.mono hle)

theorem Fresh.of_grows {n : Nat} (h : Fresh program text n seen)
    (hg : Grows program text seen seen') : Fresh program text n seen' := by
  intro t ht hm slots hl
  rcases hg t ht hm with hm | hd
  · exact h t ht hm slots hl
  · exact hd.not_live hl

/-- The search finds the preferred match of a thread, if it has not met what leads there so soon. -/
theorem explore_live {n : Nat} {slots : List (Option Nat)} (h : Live program text n t slots)
    (ht : t.place ≤ text.size) (hfuel : Fuelled fuel seen (t :: stack))
    (hfresh : Fresh program text n seen) :
    (explore program text fuel seen (t :: stack)).1 = some slots := by
  induction n generalizing t slots fuel seen stack with
  | zero =>
    obtain ⟨fuel, rfl⟩ := hfuel.exists_succ
    have hm : ¬ Marked text seen t := fun hm => hfresh t ht hm slots h
    cases h with
    | accept hpc => rw [explore_accept hm hpc]
  | succ n ih =>
    obtain ⟨fuel, rfl⟩ := hfuel.exists_succ
    by_cases hsoon : ∃ slots', Live program text n t slots'
    · obtain ⟨slots', hlive⟩ := hsoon
      cases h.unique hlive
      exact ih hlive ht hfuel (hfresh.mono (Nat.le_succ n))
    · have hm : ¬ Marked text seen t := fun hm => hfresh t ht hm slots h
      cases h with
      | accept hpc => rw [explore_accept hm hpc]
      | @step _ _ i failed u rest _ hpc hi hnext hfailed hlive =>
        -- the mark that the search makes here belongs to a thread that needs one step more
        have hfresh' : Fresh program text n (mark text seen t) := by
          intro v hv hmv slots' hl
          rcases marked_mark ht hv hmv with hmv | hspot
          · exact hfresh v hv hmv slots' (hl.mono (Nat.le_succ n))
          · exact hsoon (hl.of_spot hspot.symm)
        have hpassed : Passed program text failed := by
          refine passed_of_forall fun v hv => (hfailed v hv).passed ?_
          exact place_le_of_mem_next ht (hnext ▸ List.mem_append_left _ hv)
        have hu : u.place ≤ text.size := by
          apply place_le_of_mem_next (i := i) ht
          rw [hnext]
          exact List.mem_append_right _ List.mem_cons_self
        have hfuel' := hfuel.mark_next (i := i) hm
        rw [hnext, List.append_assoc] at hfuel'
        obtain ⟨fuel', seen', hfuel'', hgrows, heq⟩ := hpassed fuel _ _ hfuel'
        rw [explore_next hm hpc hi, hnext, List.append_assoc, heq]
        exact ih hlive hu hfuel'' (hfresh'.of_grows hgrows)

def Comes (program : Array Instruction) (text : Array Char) (t : Thread) :
    Option (List (Option Nat)) → Prop
  | none => Dead program text t
  | some slots => ∃ n, Live program text n t slots

theorem not_marked_replicate {i : Instruction} (ht : t.place ≤ text.size)
    (hpc : program[t.pc]? = some i) :
    ¬ Marked text (Array.replicate (program.size * (text.size + 1)) false) t := by
  intro hm
  have hlt : t.pc < program.size := (Array.getElem?_eq_some_iff.1 hpc).1
  have hkey : t.pc * (text.size + 1) + t.place < program.size * (text.size + 1) := by
    have hle : (t.pc + 1) * (text.size + 1) ≤ program.size * (text.size + 1) :=
      Nat.mul_le_mul_right _ hlt
    rw [Nat.succ_mul] at hle
    omega
  rw [Marked, Array.getD_eq_getD_getElem?, Array.getElem?_replicate, if_pos hkey] at hm
  cases hm

theorem fresh_replicate (program : Array Instruction) (text : Array Char) (n : Nat) :
    Fresh program text n (Array.replicate (program.size * (text.size + 1)) false) := by
  intro t ht hm slots hl
  cases hl with
  | accept hpc => exact not_marked_replicate ht hpc hm
  | step hpc => exact not_marked_replicate ht hpc hm

theorem exploreFrom_eq {slots count start : Nat} {f : Nat → Option (List (Option Nat))}
    (hf : ∀ place ≤ text.size, Comes program text ⟨0, place, List.replicate slots none⟩ (f place))
    (hcount : count ≤ text.size + 1 - start) (hfresh : ∀ n, Fresh program text n seen) :
    exploreFrom program text slots count seen start = (List.range' start count).findSome? f := by
  induction count generalizing start seen with
  | zero => rfl
  | succ count ih =>
    have hstart : start ≤ text.size := by omega
    have hfuel : Fuelled (2 * seen.size + 1) seen [⟨0, start, List.replicate slots none⟩] := by
      have hle : unseen seen ≤ seen.size := Array.count_le_size
      simp only [Fuelled, List.length_cons, List.length_nil]
      omega
    have hcomes := hf start hstart
    rw [exploreFrom, List.range'_succ, List.findSome?_cons]
    rcases hs : f start with _ | found
    · rw [hs] at hcomes
      obtain ⟨fuel', seen', -, hgrows, heq⟩ :=
        (Dead.passed hcomes hstart) _ seen [] (by rwa [List.append_nil])
      have hnone : explore program text fuel' seen' [] = (none, seen') := by cases fuel' <;> rfl
      rw [List.append_nil] at heq
      rw [heq, hnone]
      exact ih (by omega) fun n => (hfresh n).of_grows hgrows
    · rw [hs] at hcomes
      obtain ⟨n, hlive⟩ := hcomes
      have hfound := explore_live hlive hstart hfuel (hfresh n)
      rcases he : explore program text (2 * seen.size + 1) seen
        [⟨0, start, List.replicate slots none⟩] with ⟨result, seen'⟩
      rw [he] at hfound
      cases hfound
      rfl

theorem matchFrom?_eq {re : Regex} {f : Nat → Option (List (Option Nat))} (place : Nat)
    (hf : ∀ place ≤ text.size, Comes re.program text
      ⟨0, place, List.replicate (2 * re.groupNames.length) none⟩ (f place)) :
    re.matchFrom? text place =
      ((List.range' place (text.size + 1 - place)).findSome? f).bind fun slots =>
        (spanOfSlots slots 0).map fun span =>
          ⟨span, (List.range re.groupNames.length).map (spanOfSlots slots)⟩ := by
  have hsearch := exploreFrom_eq hf (Nat.le_refl (text.size + 1 - place))
    (fresh_replicate re.program text)
  rw [matchFrom?, hsearch]
  rcases (List.range' place (text.size + 1 - place)).findSome? f with _ | slots
  · rfl
  · rcases h : spanOfSlots slots 0 <;> simp [h]

end ClaimRules.Regex
