import ClaimRules.Proofs.PatternWays
import ClaimRules.Regex.Meaning

/-! The groups of an expression and those of the pattern that it means. Simplification drops a group only with
a part that is repeated zero times, and puts in front what all branches of a choice begin with. -/

namespace ClaimRules.Regex

namespace Pattern

variable {g : Nat × Option String}

theorem groupsOfAll_eq_flatMap (parts : List Pattern) : groupsOfAll parts = parts.flatMap groups := by
  induction parts with
  | nil => rfl
  | cons part rest ih => rw [groupsOfAll, ih, List.flatMap_cons]

theorem groupsOfAll_append (front back : List Pattern) :
    groupsOfAll (front ++ back) = groupsOfAll front ++ groupsOfAll back := by
  simp only [groupsOfAll_eq_flatMap, List.flatMap_append]

theorem mem_groupsOfAll {parts : List Pattern} : g ∈ groupsOfAll parts ↔ ∃ p ∈ parts, g ∈ p.groups := by
  rw [groupsOfAll_eq_flatMap, List.mem_flatMap]

theorem groups_ofSet (set : Unicode.CodeSet) : (ofSet set).groups = [] := by
  unfold ofSet
  split
  · split <;> rfl
  · rfl

theorem groups_repeating (least : Nat) (most : Option Nat) (greedy : Bool) (body : Pattern) :
    (repeating least most greedy body).groups =
      if least = 0 ∧ most = some 0 then [] else body.groups := by
  have hbounds (least : Nat) (most : Option Nat) :
      (if least = 0 ∧ most = some 0 then Pattern.empty
        else if least = 1 ∧ most = some 1 then body
        else .repeated least most greedy body).groups =
        if least = 0 ∧ most = some 0 then [] else body.groups := by
    split
    · rfl
    · split <;> rfl
  unfold repeating
  by_cases hvoid : isVoid body = true
  · -- what is empty anyway is repeated once at most, but not less than once if it was
    have hzero : min least 1 = 0 ∧ some (min (most.getD 1) 1) = some 0 ↔
        least = 0 ∧ most = some 0 := by
      rcases most with _ | most <;> simp
    rw [if_pos hvoid]
    exact (hbounds _ _).trans (by simp only [hzero])
  · rw [if_neg hvoid]
    exact hbounds least most

theorem groupsOfAll_flattenSequence (p : Pattern) : groupsOfAll (flattenSequence p) = p.groups := by
  cases p <;> simp [flattenSequence, groups, groupsOfAll]

theorem groupsOfAll_prepend (p : Pattern) (rest : List Pattern) :
    groupsOfAll (prepend p rest) = p.groups ++ groupsOfAll rest := by
  unfold prepend
  split <;> simp [groupsOfAll, groups]

theorem groups_sequencing (parts : List Pattern) :
    (sequencing parts).groups = groupsOfAll parts := by
  have hflat : groupsOfAll (parts.flatMap flattenSequence) = groupsOfAll parts := by
    induction parts with
    | nil => rfl
    | cons part rest ih =>
      rw [List.flatMap_cons, groupsOfAll_append, groupsOfAll_flattenSequence, ih, groupsOfAll]
  have hfold (parts : List Pattern) : groupsOfAll (parts.foldr prepend []) = groupsOfAll parts := by
    induction parts with
    | nil => rfl
    | cons part rest ih => rw [List.foldr_cons, groupsOfAll_prepend, ih, groupsOfAll]
  rw [← hflat, ← hfold]
  unfold sequencing
  split
  · next h => rw [h]; rfl
  · next part h => rw [h]; simp [groupsOfAll]
  · next parts _ _ => rfl

mutual

theorem eq_of_same : ∀ {a b : Pattern}, same a b = true → a = b
  | .empty, b, h => by cases b <;> simp_all [same]
  | .literal _, b, h => by cases b <;> simp_all [same]
  | .oneOf _, b, h => by cases b <;> simp_all [same]
  | .anchor _, b, h => by cases b <;> simp_all [same]
  | .repeated _ _ _ body, b, h => by
    cases b <;> simp only [same, Bool.and_eq_true, beq_iff_eq, Bool.false_eq_true] at h
    obtain ⟨⟨⟨rfl, rfl⟩, rfl⟩, hbody⟩ := h
    rw [eq_of_same hbody]
  | .group _ _ body, b, h => by
    cases b <;> simp only [same, Bool.and_eq_true, beq_iff_eq, Bool.false_eq_true] at h
    obtain ⟨⟨rfl, rfl⟩, hbody⟩ := h
    rw [eq_of_same hbody]
  | .sequence _, b, h => by
    cases b <;> simp only [same, Bool.false_eq_true] at h
    rw [eq_of_sameParts h]
  | .choice _, b, h => by
    cases b <;> simp only [same, Bool.false_eq_true] at h
    rw [eq_of_sameParts h]

theorem eq_of_sameParts : ∀ {as bs : List Pattern}, sameParts as bs = true → as = bs
  | [], [], _ => rfl
  | [], _ :: _, h => by simp [sameParts] at h
  | _ :: _, [], h => by simp [sameParts] at h
  | _ :: _, _ :: _, h => by
    rw [sameParts, Bool.and_eq_true] at h
    rw [eq_of_same h.1, eq_of_sameParts h.2]

end

theorem take_eq_of_sharedLength {n : Nat} {as bs : List Pattern} (h : n ≤ sharedLength as bs) :
    as.take n = bs.take n := by
  induction as generalizing bs n with
  | nil =>
    cases Nat.le_zero.1 h
    rfl
  | cons a as ih =>
    rcases bs with _ | ⟨b, bs⟩
    · cases Nat.le_zero.1 h
      rfl
    rcases n with _ | n
    · rfl
    rw [sharedLength] at h
    split at h
    · next hsame => rw [eq_of_same hsame, List.take_succ_cons, List.take_succ_cons,
        ih (Nat.le_of_succ_le_succ h)]
    · omega

theorem take_commonLength {sequences : List (List Pattern)} {parts : List Pattern}
    (h : parts ∈ sequences) :
    parts.take (commonLength sequences) = (sequences.headD []).take (commonLength sequences) := by
  have hfold (first : List Pattern) (rest : List (List Pattern)) (bound : Nat) :
      rest.foldl (fun n other => min n (sharedLength first other)) bound ≤ bound ∧
        ∀ other ∈ rest, rest.foldl (fun n other => min n (sharedLength first other)) bound ≤
          sharedLength first other := by
    induction rest generalizing bound with
    | nil => exact ⟨Nat.le_refl _, nofun⟩
    | cons other rest ih =>
      obtain ⟨hle, hall⟩ := ih (min bound (sharedLength first other))
      exact ⟨Nat.le_trans hle (Nat.min_le_left ..),
        List.forall_mem_cons.2 ⟨Nat.le_trans hle (Nat.min_le_right ..), hall⟩⟩
  match sequences with
  | [only] =>
    cases List.mem_singleton.1 h
    rfl
  | first :: second :: rest =>
    rcases List.mem_cons.1 h with rfl | h
    · rfl
    · exact (take_eq_of_sharedLength ((hfold first (second :: rest) first.length).2 parts h)).symm

theorem map_eq_of_mapM {α β : Type} {f : α → Option β} {xs : List α} {ys : List β}
    (h : xs.mapM f = some ys) : xs.map f = ys.map some := by
  induction xs generalizing ys with
  | nil =>
    cases h
    rfl
  | cons x xs ih =>
    rw [List.mapM_cons] at h
    obtain ⟨y, hy, h⟩ := Option.bind_eq_some_iff.1 h
    obtain ⟨rest, hrest, h⟩ := Option.bind_eq_some_iff.1 h
    cases h
    rw [List.map_cons, hy, ih hrest, List.map_cons]

theorem groupsOfAll_flattenChoice (p : Pattern) : groupsOfAll (flattenChoice p) = p.groups := by
  cases p <;> simp [flattenChoice, groups, groupsOfAll]

theorem groupsOfAll_of_merged? {branches : List Pattern} {set : Unicode.CodeSet}
    (h : merged? branches = some set) : groupsOfAll branches = [] := by
  have hnone {β : Type} {f : Pattern → Option β} {ys : List β} (h : branches.mapM f = some ys)
      (hf : ∀ p y, f p = some y → p.groups = []) : groupsOfAll branches = [] := by
    rw [groupsOfAll_eq_flatMap, List.flatMap_eq_nil_iff]
    intro p hp
    have hmem : f p ∈ ys.map some := map_eq_of_mapM h ▸ List.mem_map_of_mem hp
    obtain ⟨y, -, hy⟩ := List.mem_map.1 hmem
    exact hf p y hy.symm
  unfold merged? at h
  split at h
  · next chars hchars =>
    refine hnone hchars fun p c hc => ?_
    unfold char? at hc
    split at hc
    · rfl
    · cases hc
  · obtain ⟨sets, hsets, -⟩ := Option.map_eq_some_iff.1 h
    refine hnone hsets fun p set hset => ?_
    unfold set? at hset
    split at hset
    · rfl
    · cases hset

theorem eq_map_sequence_of_mapM {branches : List Pattern} {sequences : List (List Pattern)}
    (h : branches.mapM sequenceParts? = some sequences) : branches = sequences.map .sequence := by
  induction branches generalizing sequences with
  | nil =>
    cases h
    rfl
  | cons branch rest ih =>
    rw [List.mapM_cons] at h
    obtain ⟨parts, hparts, h⟩ := Option.bind_eq_some_iff.1 h
    obtain ⟨others, hothers, h⟩ := Option.bind_eq_some_iff.1 h
    cases h
    rw [List.map_cons, ← ih hothers]
    unfold sequenceParts? at hparts
    split at hparts
    · cases hparts
      rfl
    · cases hparts

theorem groupsOfAll_flatMap_flattenChoice (branches : List Pattern) :
    groupsOfAll (branches.flatMap flattenChoice) = groupsOfAll branches := by
  induction branches with
  | nil => rfl
  | cons branch rest ih =>
    rw [List.flatMap_cons, groupsOfAll_append, groupsOfAll_flattenChoice, ih, groupsOfAll]

theorem mem_groups_factored {sequences : List (List Pattern)} (hne : sequences ≠ []) :
    g ∈ groupsOfAll ((sequences.headD []).take (commonLength sequences)) ∨
        g ∈ groupsOfAll (rests (commonLength sequences) sequences) ↔
      g ∈ groupsOfAll (sequences.map .sequence) := by
  have hcut (parts : List Pattern) (hparts : parts ∈ sequences) :
      groupsOfAll parts = groupsOfAll ((sequences.headD []).take (commonLength sequences)) ++
        (sequencing (parts.drop (commonLength sequences))).groups := by
    rw [groups_sequencing, ← take_commonLength hparts, ← groupsOfAll_append,
      List.take_append_drop]
  have hmap (f : List Pattern → Pattern) :
      g ∈ groupsOfAll (sequences.map f) ↔ ∃ parts ∈ sequences, g ∈ (f parts).groups := by
    rw [groupsOfAll_eq_flatMap, List.flatMap_map, List.mem_flatMap]
  rw [rests, hmap, hmap]
  constructor
  · rintro (hg | ⟨parts, hparts, hg⟩)
    · obtain ⟨first, others, rfl⟩ := List.exists_cons_of_ne_nil hne
      refine ⟨first, List.mem_cons_self, ?_⟩
      rw [groups, hcut first List.mem_cons_self]
      exact List.mem_append_left _ hg
    · refine ⟨parts, hparts, ?_⟩
      rw [groups, hcut parts hparts]
      exact List.mem_append_right _ hg
  · rintro ⟨parts, hparts, hg⟩
    rw [groups, hcut parts hparts] at hg
    exact (List.mem_append.1 hg).imp_right fun hg => ⟨parts, hparts, hg⟩

theorem mem_groups_choosingUpTo {fuel : Nat} {branches : List Pattern} :
    g ∈ (choosingUpTo fuel branches).groups ↔ g ∈ groupsOfAll branches := by
  rw [← groupsOfAll_flatMap_flattenChoice]
  fun_induction choosingUpTo fuel branches with
  | case1 _ _ h => rw [h]; rfl
  | case2 _ _ branch h => rw [h, groupsOfAll, groupsOfAll, List.append_nil]
  | case3 _ _ set _ _ hset => rw [groups_ofSet, groupsOfAll_of_merged? hset]
  | case4 => rfl
  | case5 branches fuel sequences hnil _ _ hsequences _ ih =>
    rw [groupsOfAll_flatMap_flattenChoice] at ih
    have hbranches := eq_map_sequence_of_mapM hsequences
    have hne : sequences ≠ [] := by
      rintro rfl
      exact hnil hbranches
    rw [groups_sequencing, groupsOfAll_append, List.mem_append, hbranches,
      ← mem_groups_factored hne, groupsOfAll, groupsOfAll, List.append_nil, ih]
  | case6 => rfl

end Pattern

namespace Expr

mutual

/-- The groups of an expression by number and name, in the order in which they open: all of them, or only
those that are in no part that is repeated zero times. -/
def groups (all : Bool) : Expr → List (Nat × Option String)
  | .repeated least most _ body =>
    if all = false ∧ least = 0 ∧ most = some 0 then [] else groups all body
  | .group (.capture index name) body => (index, name) :: groups all body
  | .group (.plain _) body => groups all body
  | .choice branches => groupsOfAll all branches
  | .sequence parts => groupsOfAll all parts
  | _ => []

def groupsOfAll (all : Bool) : List Expr → List (Nat × Option String)
  | [] => []
  | part :: rest => groups all part ++ groupsOfAll all rest

end

mutual

theorem sublist_groups : ∀ e : Expr, (e.groups false).Sublist (e.groups true)
  | .repeated least most _ body => by
    simp only [groups, Bool.true_eq_false, false_and, if_false]
    split
    · exact List.nil_sublist _
    · exact sublist_groups body
  | .group (.capture index name) body => (sublist_groups body).cons_cons (index, name)
  | .group (.plain _) body => sublist_groups body
  | .choice branches => sublist_groupsOfAll branches
  | .sequence parts => sublist_groupsOfAll parts
  | .empty | .flags _ | .literal _ | .dot | .assertion _ | .item _ | .bracketed _ _ =>
    List.Sublist.refl _

theorem sublist_groupsOfAll : ∀ parts : List Expr,
    (groupsOfAll false parts).Sublist (groupsOfAll true parts)
  | [] => List.Sublist.refl _
  | part :: rest => (sublist_groups part).append (sublist_groupsOfAll rest)

end

theorem groups_literal {flags : Flags} {l : Literal} {p : Pattern} (h : flags.literal l = .ok p) :
    p.groups = [] := by
  unfold Flags.literal at h
  split at h
  · cases h
  · split at h
    · cases h
      exact Pattern.groups_ofSet _
    · cases h
      rfl

theorem groups_dot {flags : Flags} {p : Pattern} (h : flags.dot = .ok p) : p.groups = [] := by
  unfold Flags.dot at h
  split at h
  · cases h
  · split at h
    · cases h
      rfl
    · split at h <;> cases h <;> rfl

mutual

/-- The pattern of an expression has all groups of the expression but those in parts that are repeated
zero times. -/
theorem mem_groups_meaning {g : Nat × Option String} : ∀ {e : Expr} {flags after : Flags} {p : Pattern},
    e.meaning flags = .ok (p, after) → (g ∈ p.groups ↔ g ∈ e.groups false)
  | .empty, _, _, _, h => by cases h; rfl
  | .flags _, _, _, _, h => by cases h; rfl
  | .assertion _, _, _, _, h => by cases h; rfl
  | .literal l, _, _, _, h => by
    rw [meaning] at h
    split at h
    · next hp =>
      cases h
      rw [groups_literal hp]
      rfl
    · cases h
  | .dot, _, _, _, h => by
    rw [meaning] at h
    split at h
    · next hp =>
      cases h
      rw [groups_dot hp]
      rfl
    · cases h
  | .item i, _, _, _, h => by
    rw [meaning] at h
    split at h
    · cases h
      rw [Pattern.groups_ofSet]
      rfl
    · cases h
  | .bracketed negated set, _, _, _, h => by
    rw [meaning] at h
    split at h
    · cases h
    · split at h
      · cases h
        rw [Pattern.groups_ofSet]
        rfl
      · cases h
  | .repeated least most greedy body, _, _, _, h => by
    rw [meaning] at h
    split at h
    · next hbody =>
      cases h
      simp only [Pattern.groups_repeating, groups, true_and]
      split
      · rfl
      · exact mem_groups_meaning hbody
    · cases h
  | .group (.capture index name) body, _, _, _, h => by
    rw [meaning] at h
    split at h
    · next hbody =>
      cases h
      rw [Pattern.groups, groups, List.mem_cons, List.mem_cons, mem_groups_meaning hbody]
    · cases h
  | .group (.plain changes) body, _, _, _, h => by
    rw [meaning] at h
    split at h
    · next hbody =>
      cases h
      rw [groups, mem_groups_meaning hbody]
    · cases h
  | .choice branches, _, _, _, h => by
    rw [meaning] at h
    split at h
    · next hbranches =>
      cases h
      rw [Pattern.choosing, Pattern.mem_groups_choosingUpTo, groups, mem_groups_meanings hbranches]
    · cases h
  | .sequence parts, _, _, _, h => by
    rw [meaning] at h
    split at h
    · next hparts =>
      cases h
      rw [Pattern.groups_sequencing, groups, mem_groups_meanings hparts]
    · cases h

theorem mem_groups_meanings {g : Nat × Option String} :
    ∀ {es : List Expr} {flags after : Flags} {ps : List Pattern},
      meanings flags es = .ok (ps, after) →
        (g ∈ Pattern.groupsOfAll ps ↔ g ∈ groupsOfAll false es)
  | [], _, _, _, h => by cases h; rfl
  | part :: rest, _, _, _, h => by
    rw [meanings] at h
    split at h
    · cases h
    · next hpart =>
      split at h
      · next hrest =>
        cases h
        rw [Pattern.groupsOfAll, groupsOfAll, List.mem_append, List.mem_append,
          mem_groups_meaning hpart, mem_groups_meanings hrest]
      · cases h

end

theorem mem_groups_pattern {e : Expr} {p : Pattern} (h : e.pattern = .ok p)
    (g : Nat × Option String) : g ∈ p.groups ↔ g ∈ e.groups false := by
  unfold Expr.pattern at h
  rcases hmeaning : e.meaning .initial with fault | ⟨p', after⟩
  · rw [hmeaning] at h
    cases h
  · rw [hmeaning] at h
    cases h
    exact mem_groups_meaning hmeaning

end Expr
end ClaimRules.Regex
