import ClaimRules.Proofs.MatchPlaces

/-! The search for a match leaves nothing out. When it gives a place up, all that a thread from there
leads to has been met, and no match was among it. So what is found begins at the first place where
there is anything to find, also for loops that take no characters. -/

namespace ClaimRules.Regex

inductive Path (program : Array Instruction) (text : Array Char) : Nat → Thread → Thread → Prop where
  | refl (t : Thread) : Path program text 0 t t
  | step {n : Nat} {t u v : Thread} {i : Instruction} (hpc : program[t.pc]? = some i)
      (hu : u ∈ t.next text i) (h : Path program text n u v) : Path program text (n + 1) t v

def Accepts (program : Array Instruction) (text : Array Char) (t : Thread) : Prop :=
  ∃ n v, Path program text n t v ∧ program[v.pc]? = some .accept

variable {program : Array Instruction} {text : Array Char} {t u v : Thread} {n m fuel : Nat}
  {seen seen' : Array Bool} {stack : List Thread}

namespace Path

theorem trans (h : Path program text n t u) (h' : Path program text m u v) :
    Path program text (n + m) t v := by
  induction h with
  | refl => rwa [Nat.zero_add]
  | step hpc hu _ ih =>
    rw [Nat.add_right_comm]
    exact .step hpc hu (ih h')

theorem snoc {i : Instruction} (h : Path program text n t u) (hpc : program[u.pc]? = some i)
    (hv : v ∈ u.next text i) : Path program text (n + 1) t v :=
  h.trans (.step hpc hv (.refl v))

theorem exists_step {i : Instruction} (h : Path program text n t v) (hpc : program[t.pc]? = some i)
    (hne : t.pc ≠ v.pc) : ∃ m u, n = m + 1 ∧ u ∈ t.next text i ∧ Path program text m u v := by
  cases h with
  | refl => exact absurd rfl hne
  | step hpc' hu h =>
    cases hpc.symm.trans hpc'
    exact ⟨_, _, rfl, hu, h⟩

theorem keeps {Q : Thread → Prop} (h : Path program text n t v) (ht : Q t)
    (hstep : ∀ t i u, Q t → program[t.pc]? = some i → u ∈ t.next text i → Q u) : Q v := by
  induction h with
  | refl => exact ht
  | step hpc hu _ ih => exact ih (hstep _ _ _ ht hpc hu)

end Path

theorem Marked.of_spot (h : Marked text seen t) (hs : t.spot = u.spot) : Marked text seen u := by
  obtain ⟨pc, place, slots⟩ := t
  obtain ⟨pc', place', slots'⟩ := u
  cases hs
  exact h

theorem marked_mark_self (seen : Array Bool) (t : Thread) : Marked text (mark text seen t) t := by
  rw [Marked, mark, Array.getD_eq_getD_getElem?, Array.getElem?_setIfInBounds, if_pos rfl]
  split <;> rfl

theorem Marked.mark (h : Marked text seen t) (u : Thread) :
    Marked text (Regex.mark text seen u) t := by
  rw [Marked, Array.getD_eq_getD_getElem?] at h ⊢
  rw [Regex.mark, Array.getElem?_setIfInBounds]
  split
  · split <;> rfl
  · exact h

/-- What has been met is no match, and all that it leads to has been met, too, or is still on the
stack. -/
def Closed (program : Array Instruction) (text : Array Char) (seen : Array Bool)
    (stack : List Thread) : Prop :=
  ∀ t i, t.place ≤ text.size → Marked text seen t → program[t.pc]? = some i →
    i ≠ .accept ∧ ∀ u ∈ t.next text i, Marked text seen u ∨ ∃ v ∈ stack, v.spot = u.spot

namespace Closed

theorem replicate (program : Array Instruction) (text : Array Char) (stack : List Thread) :
    Closed program text (Array.replicate (program.size * (text.size + 1)) false) stack :=
  fun _ _ ht hm hpc => absurd hm (not_marked_replicate ht hpc)

theorem pop (h : Closed program text seen (t :: stack)) (ht : Marked text seen t) :
    Closed program text seen stack := by
  intro v i hv hm hpc
  obtain ⟨hi, hnext⟩ := h v i hv hm hpc
  refine ⟨hi, fun u hu => ?_⟩
  rcases hnext u hu with hm | ⟨w, hw, hs⟩
  · exact .inl hm
  · rcases List.mem_cons.1 hw with rfl | hw
    · exact .inl (ht.of_spot hs)
    · exact .inr ⟨w, hw, hs⟩

theorem mark {threads : List Thread} (h : Closed program text seen (t :: stack))
    (ht : t.place ≤ text.size)
    (hnext : ∀ i, program[t.pc]? = some i → i ≠ .accept ∧ t.next text i = threads) :
    Closed program text (Regex.mark text seen t) (threads ++ stack) := by
  intro v i hv hm hpc
  rcases marked_mark ht hv hm with hm | hs
  · obtain ⟨hi, hall⟩ := h v i hv hm hpc
    refine ⟨hi, fun u hu => ?_⟩
    rcases hall u hu with hm | ⟨w, hw, hs⟩
    · exact .inl (hm.mark t)
    · rcases List.mem_cons.1 hw with rfl | hw
      · exact .inl ((marked_mark_self seen w).of_spot hs)
      · exact .inr ⟨w, List.mem_append_right _ hw, hs⟩
  · -- the same instruction at the same place, with other slots at most
    rw [← Thread.pc_eq hs] at hpc
    obtain ⟨hi, hthreads⟩ := hnext i hpc
    refine ⟨hi, fun u hu => ?_⟩
    have hmem : u.spot ∈ (v.next text i).map Thread.spot := List.mem_map_of_mem hu
    rw [← map_spot_next hs, hthreads] at hmem
    obtain ⟨w, hw, hspot⟩ := List.mem_map.1 hmem
    exact .inr ⟨w, List.mem_append_left _ hw, hspot⟩

theorem of_empty (h : Closed program text seen []) (stack : List Thread) :
    Closed program text seen stack := by
  intro t i ht hm hpc
  obtain ⟨hi, hall⟩ := h t i ht hm hpc
  refine ⟨hi, fun u hu => .inl ?_⟩
  rcases hall u hu with hm | ⟨_, hnil, -⟩
  · exact hm
  · cases hnil

/-- Nothing that has been met leads to a match. -/
theorem not_accepts (h : Closed program text seen []) (ht : t.place ≤ text.size)
    (hm : Marked text seen t) : ¬ Accepts program text t := by
  rintro ⟨n, v, hpath, haccept⟩
  have hend : v.place ≤ text.size ∧ Marked text seen v := by
    refine hpath.keeps (Q := fun v => v.place ≤ text.size ∧ Marked text seen v) ⟨ht, hm⟩
      fun w i u hw hpc hu => ⟨place_le_of_mem_next hw.1 hu, ?_⟩
    obtain ⟨-, hall⟩ := h w i hw.1 hw.2 hpc
    exact (hall u hu).resolve_right fun ⟨_, hnil, _⟩ => nomatch hnil
  exact (h v _ hend.1 hend.2 haccept).1 rfl

end Closed

theorem closed_of_explore (hfuel : Fuelled fuel seen stack)
    (hplaces : ∀ t ∈ stack, t.place ≤ text.size) (hclosed : Closed program text seen stack)
    (h : explore program text fuel seen stack = (none, seen')) :
    Closed program text seen' [] ∧ (∀ t, Marked text seen t → Marked text seen' t) ∧
      ∀ t ∈ stack, Marked text seen' t := by
  induction fuel generalizing seen stack with
  | zero =>
    have hnil : stack = [] := List.length_eq_zero_iff.1 (by unfold Fuelled at hfuel; omega)
    subst hnil
    cases h
    exact ⟨hclosed, fun _ hm => hm, nofun⟩
  | succ fuel ih =>
    rcases stack with _ | ⟨t, stack⟩
    · cases h
      exact ⟨hclosed, fun _ hm => hm, nofun⟩
    obtain ⟨ht, hrest⟩ := List.forall_mem_cons.1 hplaces
    by_cases hm : Marked text seen t
    · rw [explore_marked hm] at h
      obtain ⟨hclosed', hkeeps, hstack⟩ := ih hfuel.tail hrest (hclosed.pop hm) h
      exact ⟨hclosed', hkeeps, List.forall_mem_cons.2 ⟨hkeeps t hm, hstack⟩⟩
    -- the thread is marked, and what it leads to takes its place
    have hnext {i : Instruction} (hthreads : Closed program text (mark text seen t)
        (t.next text i ++ stack)) (he : explore program text fuel (mark text seen t)
          (t.next text i ++ stack) = (none, seen')) :
        Closed program text seen' [] ∧ (∀ t, Marked text seen t → Marked text seen' t) ∧
          ∀ u ∈ t :: stack, Marked text seen' u := by
      obtain ⟨hclosed', hkeeps, hstack⟩ := ih (hfuel.mark_next hm)
        (List.forall_mem_append.2 ⟨fun u => place_le_of_mem_next ht, hrest⟩) hthreads he
      exact ⟨hclosed', fun u hu => hkeeps u (hu.mark t), List.forall_mem_cons.2
        ⟨hkeeps t (marked_mark_self seen t), (List.forall_mem_append.1 hstack).2⟩⟩
    rcases hpc : program[t.pc]? with _ | i
    · rw [explore_outside hm hpc] at h
      exact hnext (i := .accept) (hclosed.mark ht fun i hi => nomatch hpc.symm.trans hi) h
    by_cases hi : i = .accept
    · subst hi
      rw [explore_accept hm hpc] at h
      cases h
    · rw [explore_next hm hpc hi] at h
      refine hnext (hclosed.mark ht fun j hj => ?_) h
      cases hpc.symm.trans hj
      exact ⟨hi, rfl⟩

theorem fuelled_start (seen : Array Bool) (t : Thread) : Fuelled (2 * seen.size + 1) seen [t] := by
  have hle : unseen seen ≤ seen.size := Array.count_le_size
  simp only [Fuelled, List.length_singleton]
  omega

theorem not_accepts_of_explore (hclosed : Closed program text seen []) (ht : t.place ≤ text.size)
    (h : explore program text (2 * seen.size + 1) seen [t] = (none, seen')) :
    Closed program text seen' [] ∧ ¬ Accepts program text t := by
  obtain ⟨hclosed', -, hstack⟩ := closed_of_explore (fuelled_start seen t)
    (List.forall_mem_singleton.2 ht) (hclosed.of_empty _) h
  exact ⟨hclosed', hclosed'.not_accepts ht (hstack t (List.mem_singleton_self t))⟩

theorem exists_path_of_explore {fuel : Nat} {found : List (Option Nat)}
    (h : explore program text fuel seen [t] = (some found, seen')) :
    ∃ n v, Path program text n t v ∧ program[v.pc]? = some .accept ∧ v.slots = found := by
  have hsnoc : ∀ u i v, (∃ n, Path program text n t u) → program[u.pc]? = some i →
      v ∈ u.next text i → ∃ n, Path program text n t v := by
    rintro u i v ⟨n, hpath⟩ hpc hv
    exact ⟨n + 1, hpath.snoc hpc hv⟩
  obtain ⟨v, ⟨n, hpath⟩, haccept, hslots⟩ :=
    explore_sound hsnoc (List.forall_mem_singleton.2 ⟨0, .refl _⟩) h
  exact ⟨n, v, hpath, haccept, hslots⟩

/-- The search gives a starting place up only if no match can be reached from there. -/
theorem exploreFrom_exhaustive (slots : Nat) {count start : Nat} (hclosed : Closed program text seen [])
    (hcount : start + count ≤ text.size + 1) :
    match exploreFrom program text slots count seen start with
    | none => ∀ place, start ≤ place → place < start + count →
        ¬ Accepts program text ⟨0, place, List.replicate slots none⟩
    | some found => ∃ first, start ≤ first ∧ first < start + count ∧
        (∃ n v, Path program text n ⟨0, first, List.replicate slots none⟩ v ∧
          program[v.pc]? = some .accept ∧ v.slots = found) ∧
        ∀ place, start ≤ place → place < first →
          ¬ Accepts program text ⟨0, place, List.replicate slots none⟩ := by
  induction count generalizing start seen with
  | zero => exact fun place hle hlt => by omega
  | succ count ih =>
    rw [exploreFrom]
    rcases he : explore program text (2 * seen.size + 1) seen
      [⟨0, start, List.replicate slots none⟩] with ⟨_ | found, seen'⟩
    · have hplace : start ≤ text.size := by omega
      have hcount' : start + 1 + count ≤ text.size + 1 := by omega
      obtain ⟨hclosed', hstart⟩ := not_accepts_of_explore hclosed hplace he
      have hlater := ih hclosed' hcount'
      dsimp only
      split
      · next heq =>
        rw [heq] at hlater
        intro place hle hlt
        rcases Nat.eq_or_lt_of_le hle with rfl | hle
        · exact hstart
        · exact hlater place hle (by omega)
      · next found heq =>
        rw [heq] at hlater
        obtain ⟨first, hle, hlt, hfound, hnone⟩ := hlater
        refine ⟨first, by omega, by omega, hfound, fun place hle' hlt' => ?_⟩
        rcases Nat.eq_or_lt_of_le hle' with rfl | hle'
        · exact hstart
        · exact hnone place hle' hlt'
    · exact ⟨start, Nat.le_refl _, by omega, exists_path_of_explore he,
        fun place hle hlt => by omega⟩

end ClaimRules.Regex
