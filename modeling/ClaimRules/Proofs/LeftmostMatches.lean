import ClaimRules.Proofs.PatternSpans

/-! The search finds the leftmost match. What it finds starts at the first place from which the pattern
can take a part of the text, and is such a part; if it finds nothing, there is no such place. -/

namespace ClaimRules.Regex

structure Thread.Delimited (first last : Nat) (t : Thread) : Prop where
  room : 2 ≤ t.slots.length
  origin : t.pc = 0 → t.place = first
  start : t.pc ≠ 0 → t.slots[0]? = some (some first)
  stop : t.pc = last → t.slots[1]? = some (some t.place)

namespace Pattern

variable {p : Pattern} {text : Array Char} {t u v : Thread} {i : Instruction} {first n : Nat}

theorem inner_of_mem_code (hg : ∀ g ∈ p.groups, g.1 ≠ 0) {start : Nat} (hi : i ∈ code p start) :
    (∀ target ∈ i.targets, start ≤ target) ∧ ∀ slot, i = .mark slot → 2 ≤ slot := by
  have hP : Local fun first _ i =>
      (∀ target ∈ i.targets, first ≤ target) ∧ ∀ slot, i = .mark slot → 2 ≤ slot :=
    ⟨fun h hle _ => ⟨fun target ht => Nat.le_trans hle (h.1 target ht), h.2⟩,
      fun _ hmark htargets =>
        ⟨fun target ht => (htargets target ht).1, fun slot hi => absurd hi (hmark slot)⟩⟩
  refine everywhere_code hP p (fun g hmem _ _ => ?_) start i hi
  have hpos := hg g hmem
  constructor
  · refine ⟨nofun, ?_⟩
    rintro _ ⟨⟩
    omega
  · refine ⟨nofun, ?_⟩
    rintro _ ⟨⟩
    omega

theorem delimited_next (hg : ∀ g ∈ p.groups, g.1 ≠ 0) (ht : t.Delimited first p.acceptAt)
    (hpc : p.program.toArray[t.pc]? = some i) (hu : u ∈ t.next text i) :
    u.Delimited first p.acceptAt := by
  have hend : u.pc = p.acceptAt → i = .mark 1 := mark_of_mem_next hpc hu
  obtain ⟨-, hslots⟩ := slots_of_mem_next hu
  have hroom : 2 ≤ u.slots.length := by
    rcases hslots with h | ⟨_, -, -, h⟩ <;> simp only [h, List.length_set, ht.room]
  rcases program_cases hpc with ⟨h0, rfl⟩ | ⟨hle, hlt, hi⟩ | ⟨hlast, rfl⟩ | ⟨-, rfl⟩
  · -- the start is stored
    cases List.mem_singleton.1 hu
    refine ⟨hroom, nofun, fun _ => ?_, fun h => by cases hend h⟩
    rw [List.getElem?_set_self (by have := ht.room; omega), ht.origin h0]
  · obtain ⟨htargets, hmark⟩ := inner_of_mem_code hg hi
    have hpos : 1 ≤ u.pc := (pc_of_mem_next hu).elim (by omega) (htargets _)
    refine ⟨hroom, fun h => by omega, fun _ => ?_, fun h => absurd (hmark 1 (hend h)) (by decide)⟩
    rcases hslots with h | ⟨slot, rfl, -, h⟩
    · rw [h, ht.start (by omega)]
    · have hslot := hmark slot rfl
      rw [h, List.getElem?_set_ne (by omega), ht.start (by omega)]
  · -- the end is stored
    cases List.mem_singleton.1 hu
    refine ⟨hroom, nofun, fun _ => ?_, fun _ => List.getElem?_set_self ht.room⟩
    have hpos : t.pc ≠ 0 := by
      unfold acceptAt at hlast
      omega
    rw [List.getElem?_set_ne Nat.one_ne_zero, ht.start hpos]
  · cases hu

theorem spanOfSlots_zero (ht : t.Delimited first p.acceptAt) (hpc : t.pc = p.acceptAt) :
    spanOfSlots t.slots 0 = some ⟨first, t.place⟩ := by
  have hpos : t.pc ≠ 0 := by
    unfold acceptAt at hpc
    omega
  simp only [spanOfSlots, Nat.mul_zero, Nat.zero_add, ht.start hpos, ht.stop hpc, Option.join_some]

theorem program_acceptAt (p : Pattern) : p.program.toArray[p.acceptAt]? = some .accept := by
  have haccept := (codeAt_program p).right.tail.head
  rw [List.length_cons, Nat.zero_add] at haccept
  exact haccept

theorem carries_program (text : Array Char) (p : Pattern) :
    Carries p.program.toArray text 0 p.acceptAt (Spans text p) := by
  have hcode := codeAt_program p
  have hclose := hcode.right.head
  rw [List.length_cons, Nat.zero_add, Nat.add_comm] at hclose
  have hrealizes : Realizes p.program.toArray text (code p) (Spans text p) := realizes_code p
  have hbody := hrealizes 1 hcode.left.tail
  have hall := ((Carries.storing hcode.left.head).andThen hbody (by omega) (by omega)).andThen
    (.storing hclose) (by omega) (by omega)
  have hend : 1 + (code p 1).length + 1 = p.acceptAt := by
    unfold acceptAt
    omega
  rw [hend] at hall
  refine hall.congr fun i j => ⟨?_, fun h => ⟨j, ⟨i, rfl, h⟩, rfl⟩⟩
  rintro ⟨_, ⟨_, rfl, h⟩, rfl⟩
  exact h

theorem spans_of_path (h : Path p.program.toArray text n t v) (ht : t.pc = 0)
    (hv : p.program.toArray[v.pc]? = some .accept) : Spans text p t.place v.place := by
  have hpc := pc_eq_acceptAt hv
  obtain ⟨m, u, -, hu, hspans, hpath⟩ := (carries_program text p).leaves n t v ht h (by omega)
  cases hpath with
  | refl => exact hspans
  | step hpc' hnext _ =>
    -- where a match ends, no instruction goes on
    rw [hu, program_acceptAt] at hpc'
    cases hpc'
    cases hnext

theorem accepts_iff (ht : t.pc = 0) :
    Accepts p.program.toArray text t ↔ ∃ stop, Spans text p t.place stop := by
  constructor
  · rintro ⟨n, v, hpath, hv⟩
    exact ⟨v.place, spans_of_path hpath ht hv⟩
  · rintro ⟨stop, hspans⟩
    obtain ⟨n, v, hv, -, hpath⟩ := (carries_program text p).arrives t stop ht hspans
    exact ⟨n, v, hpath, fetch (program_acceptAt p) hv⟩

theorem foldl_number_cases (found : List (Nat × Option String)) (n : Nat) :
    (∀ g ∈ found, g.1 + 1 ≤ found.foldl (fun n g => max n (g.1 + 1)) n) ∧
      n ≤ found.foldl (fun n g => max n (g.1 + 1)) n ∧
      (found.foldl (fun n g => max n (g.1 + 1)) n = n ∨
        ∃ g ∈ found, found.foldl (fun n g => max n (g.1 + 1)) n = g.1 + 1) := by
  induction found generalizing n with
  | nil => exact ⟨List.forall_mem_nil _, Nat.le_refl n, .inl rfl⟩
  | cons g found ih =>
    obtain ⟨hall, hle, heq⟩ := ih (max n (g.1 + 1))
    rw [List.foldl_cons]
    refine ⟨List.forall_mem_cons.2 ⟨by omega, hall⟩, by omega, ?_⟩
    rcases heq with heq | ⟨g', hg', heq⟩
    · rcases Nat.le_total n (g.1 + 1) with hn | hn
      · exact .inr ⟨g, List.mem_cons_self, heq.trans (Nat.max_eq_right hn)⟩
      · exact .inl (heq.trans (Nat.max_eq_left hn))
    · exact .inr ⟨g', List.mem_cons_of_mem _ hg', heq⟩

theorem length_groupNames_cases (p : Pattern) :
    (∀ g ∈ p.groups, g.1 < p.groupNames.length) ∧
      (p.groupNames.length = 1 ∨ ∃ g ∈ p.groups, p.groupNames.length = g.1 + 1) := by
  have hlength : p.groupNames.length = p.groups.foldl (fun n g => max n (g.1 + 1)) 1 := by
    simp only [groupNames, List.length_map, List.length_range]
  obtain ⟨hall, -, heq⟩ := foldl_number_cases p.groups 1
  rw [hlength]
  exact ⟨hall, heq⟩

theorem groupNames_ne_nil (p : Pattern) : p.groupNames ≠ [] := by
  apply List.ne_nil_of_length_pos
  rcases (length_groupNames_cases p).2 with h | ⟨g, -, h⟩ <;> omega

theorem groups_zero {re : Regex} {place : Nat} {m : Match} (hne : re.groupNames ≠ [])
    (h : re.matchFrom? text place = some m) : m.groups[0]? = some (some m.span) := by
  unfold matchFrom? at h
  obtain ⟨slots, -, h⟩ := Option.bind_eq_some_iff.1 h
  obtain ⟨span, hspan, h⟩ := Option.bind_eq_some_iff.1 h
  cases h
  rw [List.getElem?_map, List.getElem?_range (List.length_pos_iff.2 hne), Option.map_some, hspan]

/-- A match of a pattern from a place on: the pattern takes this part of the text, and takes none that
starts earlier. What the groups took is inside. -/
structure Leftmost (text : Array Char) (p : Pattern) (place : Nat) (m : Match) : Prop where
  inside : m.Inside text place
  spans : Spans text p m.span.start m.span.stop
  first : ∀ start stop, place ≤ start → start < m.span.start → ¬ Spans text p start stop
  length_groups : m.groups.length = p.groupNames.length
  whole : m.groups[0]? = some (some m.span)
  groups : ∀ s, some s ∈ m.groups → m.span.start ≤ s.start ∧ s.start ≤ m.span.stop ∧
    m.span.start ≤ s.stop ∧ s.stop ≤ m.span.stop

theorem placed_start {slots : Nat} (h : first ≤ text.size) :
    (⟨0, first, List.replicate slots none⟩ : Thread).Placed text first p.acceptAt := by
  refine ⟨h, Nat.le_refl _, fun place hm => ?_, nofun⟩
  cases (List.mem_replicate.1 hm).2

theorem delimited_start {slots : Nat} (h : 2 ≤ slots) :
    (⟨0, first, List.replicate slots none⟩ : Thread).Delimited first p.acceptAt :=
  ⟨by rwa [List.length_replicate], fun _ => rfl, fun h => absurd rfl h, nofun⟩

theorem matchFrom?_cases (hg : ∀ g ∈ p.groups, g.1 ≠ 0) {place : Nat} (hplace : place ≤ text.size) :
    let start (first : Nat) : Thread :=
      ⟨0, first, List.replicate (2 * p.groupNames.length) none⟩
    ((⟨p.groupNames, p.program.toArray⟩ : Regex).matchFrom? text place = none ∧
      ∀ first, place ≤ first → first ≤ text.size →
        ¬ Accepts p.program.toArray text (start first)) ∨
    ∃ first n v, place ≤ first ∧ first ≤ text.size ∧
      (∀ earlier, place ≤ earlier → earlier < first →
        ¬ Accepts p.program.toArray text (start earlier)) ∧
      Path p.program.toArray text n (start first) v ∧
      p.program.toArray[v.pc]? = some .accept ∧
      (⟨p.groupNames, p.program.toArray⟩ : Regex).matchFrom? text place =
        some ⟨⟨first, v.place⟩, (List.range p.groupNames.length).map (spanOfSlots v.slots)⟩ := by
  intro start
  have hcount : place + (text.size + 1 - place) = text.size + 1 := by omega
  have hroom : 2 ≤ 2 * p.groupNames.length := by
    have hpos := List.length_pos_iff.2 (groupNames_ne_nil p)
    omega
  have hsearch := exploreFrom_exhaustive (2 * p.groupNames.length)
    (Closed.replicate p.program.toArray text []) (Nat.le_of_eq hcount)
  rw [hcount] at hsearch
  unfold matchFrom?
  dsimp only
  split at hsearch
  · next hnone =>
    refine .inl ⟨?_, fun first hle hlt => hsearch first hle (by omega)⟩
    rw [hnone]
    rfl
  · next found hfound =>
    obtain ⟨first, hle, hlt, ⟨n, v, hpath, hv, rfl⟩, hearlier⟩ := hsearch
    refine .inr ⟨first, n, v, hle, by omega, hearlier, hpath, hv, ?_⟩
    have hspan : spanOfSlots v.slots 0 = some ⟨first, v.place⟩ :=
      spanOfSlots_zero (hpath.keeps (delimited_start hroom) fun t i u => delimited_next hg)
        (pc_eq_acceptAt hv)
    rw [hfound]
    simp only [bind, Option.bind_some, hspan]
    rfl

theorem leftmost_of_matchFrom? (hg : ∀ g ∈ p.groups, g.1 ≠ 0) {place : Nat} {m : Match}
    (h : (⟨p.groupNames, p.program.toArray⟩ : Regex).matchFrom? text place = some m) :
    Leftmost text p place m := by
  have hinside := inside_of_matchFrom? h
  have hplace : place ≤ text.size :=
    Nat.le_trans hinside.place_le (Nat.le_trans hinside.start_le hinside.stop_le)
  rcases matchFrom?_cases hg hplace with ⟨hnone, -⟩ |
    ⟨first, n, v, -, hfirst, hearlier, hpath, hv, hfound⟩
  · cases hnone.symm.trans h
  cases hfound.symm.trans h
  have hplaced : v.Placed text first p.acceptAt :=
    hpath.keeps (placed_start hfirst) fun t i u => placed_next
  refine ⟨hinside, spans_of_path hpath rfl hv, fun start stop hle hlt hspans =>
    hearlier start hle hlt ((accepts_iff rfl).2 ⟨stop, hspans⟩), ?_,
    groups_zero (groupNames_ne_nil p) h, fun s hs => ?_⟩
  · rw [List.length_map, List.length_range]
  · obtain ⟨k, -, hk⟩ := List.mem_map.1 hs
    unfold spanOfSlots at hk
    split at hk
    · next start stop hstart hstop =>
      cases hk
      have hplaces := hplaced.stored start
        (List.mem_of_getElem? (Option.join_eq_some_iff.1 hstart))
      have hplaces' := hplaced.stored stop (List.mem_of_getElem? (Option.join_eq_some_iff.1 hstop))
      exact ⟨hplaces.1, hplaces.2, hplaces'.1, hplaces'.2⟩
    · cases hk

theorem not_spans_of_matchFrom? (hg : ∀ g ∈ p.groups, g.1 ≠ 0) {place : Nat}
    (h : (⟨p.groupNames, p.program.toArray⟩ : Regex).matchFrom? text place = none) {start : Nat}
    (hle : place ≤ start) (hstart : start ≤ text.size) (stop : Nat) :
    ¬ Spans text p start stop := by
  intro hspans
  rcases matchFrom?_cases hg (Nat.le_trans hle hstart) with ⟨-, hnone⟩ |
    ⟨first, n, v, -, -, -, -, -, hfound⟩
  · exact hnone start hle hstart ((accepts_iff rfl).2 ⟨stop, hspans⟩)
  · cases hfound.symm.trans h

end Pattern
end ClaimRules.Regex
