import ClaimRules.Proofs.Backtracking

/-! Threads that take the place of others. A part of a program is described by the threads that it turns
a thread into, so parts can be put together without a word on what comes after them. -/

namespace ClaimRules.Regex

variable {program : Array Instruction} {text : Array Char} {t u : Thread}

theorem split_of_append {α : Type} {as bs front rest : List α} {a : α}
    (h : as ++ bs = front ++ a :: rest) :
    (∃ more, front = as ++ more ∧ bs = more ++ a :: rest) ∨ ∃ more, as = front ++ a :: more := by
  rcases List.append_eq_append_iff.1 h with hbs | ⟨more, rfl, hmore⟩
  · exact .inl hbs
  · cases more with
    | nil => exact .inl ⟨[], by simp, hmore.symm⟩
    | cons b more =>
      obtain ⟨rfl, -⟩ := List.cons.inj hmore
      exact .inr ⟨more, rfl⟩

/-- Some steps put the second threads in the place of the first ones, preferred ones first. -/
inductive Unfolds (program : Array Instruction) (text : Array Char) :
    List Thread → List Thread → Prop where
  | nil : Unfolds program text [] []
  | keep {t ts us} : Unfolds program text ts us → Unfolds program text (t :: ts) (t :: us)
  | step {t i ts us} : program[t.pc]? = some i → i ≠ .accept →
      Unfolds program text (t.next text i ++ ts) us → Unfolds program text (t :: ts) us

namespace Unfolds

variable {ts us vs ts' us' : List Thread}

theorem refl : ∀ ts, Unfolds program text ts ts
  | [] => .nil
  | _ :: ts => .keep (refl ts)

theorem append (h : Unfolds program text ts us) (h' : Unfolds program text ts' us') :
    Unfolds program text (ts ++ ts') (us ++ us') := by
  induction h with
  | nil => exact h'
  | keep _ ih => exact .keep ih
  | step hpc hi _ ih =>
    rw [List.append_assoc] at ih
    exact .step hpc hi ih

theorem split (h : Unfolds program text (ts ++ ts') vs) :
    ∃ us us', vs = us ++ us' ∧ Unfolds program text ts us ∧ Unfolds program text ts' us' := by
  generalize hall : ts ++ ts' = all at h
  induction h generalizing ts with
  | nil =>
    obtain ⟨rfl, rfl⟩ := List.append_eq_nil_iff.1 hall
    exact ⟨[], [], rfl, .nil, .nil⟩
  | @keep t all us h ih =>
    cases ts with
    | nil =>
      subst hall
      exact ⟨[], t :: us, rfl, .nil, .keep h⟩
    | cons t' ts =>
      cases hall
      obtain ⟨us, us', rfl, hl, hr⟩ := ih rfl
      exact ⟨t :: us, us', rfl, .keep hl, hr⟩
  | @step t i all us hpc hi h ih =>
    cases ts with
    | nil =>
      subst hall
      exact ⟨[], us, rfl, .nil, .step hpc hi h⟩
    | cons t' ts =>
      cases hall
      obtain ⟨us, us', rfl, hl, hr⟩ := ih (List.append_assoc ..)
      exact ⟨us, us', rfl, .step hpc hi hl, hr⟩

theorem trans (h : Unfolds program text ts us) (h' : Unfolds program text us vs) :
    Unfolds program text ts vs := by
  induction h generalizing vs with
  | nil => exact h'
  | step hpc hi _ ih => exact .step hpc hi (ih h')
  | @keep t ts us _ ih =>
    have hsplit : Unfolds program text ([t] ++ us) vs := h'
    obtain ⟨vs, vs', rfl, hfirst, hrest⟩ := hsplit.split
    exact hfirst.append (ih hrest)

theorem next {i : Instruction} (hpc : program[t.pc]? = some i) (hi : i ≠ .accept) :
    Unfolds program text [t] (t.next text i) := by
  refine .step hpc hi ?_
  rw [List.append_nil]
  exact refl _

theorem flatMap {α : Type} {f : α → Thread} {g : α → List Thread} {as : List α}
    (h : ∀ a ∈ as, Unfolds program text [f a] (g a)) :
    Unfolds program text (as.map f) (as.flatMap g) := by
  induction as with
  | nil => exact .nil
  | cons a as ih =>
    rw [List.map_cons, List.flatMap_cons]
    have hrest := ih fun b hb => h b (List.mem_cons_of_mem _ hb)
    exact (h a List.mem_cons_self).append hrest

theorem dead (h : Unfolds program text ts []) : ∀ t ∈ ts, Dead program text t := by
  generalize hus : ([] : List Thread) = us at h
  induction h with
  | nil => exact nofun
  | keep => cases hus
  | step hpc hi _ ih =>
    have hall := ih hus
    intro u hu
    rcases List.mem_cons.1 hu with rfl | hu
    · exact .step hpc hi fun v hv => hall v (List.mem_append_left _ hv)
    · exact hall u (List.mem_append_right _ hu)

theorem live (h : Unfolds program text ts (u :: us)) (hu : program[u.pc]? = some .accept) :
    ∃ front t rest n, ts = front ++ t :: rest ∧ (∀ v ∈ front, Dead program text v) ∧
      Live program text n t u.slots := by
  generalize hvs : u :: us = vs at h
  induction h with
  | nil => cases hvs
  | @keep t ts us _ _ =>
    cases hvs
    exact ⟨[], u, ts, 0, rfl, nofun, .accept hu⟩
  | @step t i ts us hpc hi _ ih =>
    obtain ⟨front, v, rest, n, heq, hfront, hlive⟩ := ih hvs
    rcases split_of_append heq with ⟨more, rfl, hmore⟩ | ⟨more, hnext⟩
    · -- all that comes of the first thread is dead, so it is dead
      have hdead : Dead program text t :=
        .step hpc hi fun w hw => hfront w (List.mem_append_left _ hw)
      refine ⟨t :: more, v, rest, n, by rw [hmore, List.cons_append], fun w hw => ?_, hlive⟩
      rcases List.mem_cons.1 hw with rfl | hw
      · exact hdead
      · exact hfront w (List.mem_append_right _ hw)
    · exact ⟨[], t, ts, n + 1, rfl, nofun, .step hpc hi hnext hfront hlive⟩

theorem comes (h : Unfolds program text [t] us)
    (hus : ∀ u ∈ us, program[u.pc]? = some .accept) :
    Comes program text t (us.head?.map Thread.slots) := by
  cases us with
  | nil => exact h.dead t (List.mem_singleton_self t)
  | cons u us =>
    obtain ⟨front, v, rest, n, heq, -, hlive⟩ := h.live (hus u List.mem_cons_self)
    have hfront : front = [] := by
      have hlength := congrArg List.length heq
      simp only [List.length_cons, List.length_append, List.length_nil] at hlength
      exact List.length_eq_zero_iff.1 (by omega)
    subst hfront
    cases heq
    exact ⟨n, hlive⟩

end Unfolds

end ClaimRules.Regex
