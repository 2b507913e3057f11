import ClaimRules.Proofs.GroupNumbers
import ClaimRules.Proofs.MatchPlaces
import Mathlib.Data.List.Pairwise
import Mathlib.Data.List.Sort

/-! The table of groups of a compiled pattern. It has a place for every number up to the last group that is
kept, and under each number the name of this group. -/

namespace ClaimRules.Regex

/-- Groups whose numbers rise from one on or later, and whose names differ. -/
structure Ordered (kept : List (Nat × Option String)) : Prop where
  rising : (kept.map Prod.fst).Pairwise (· < ·)
  positive : ∀ g ∈ kept, g.1 ≠ 0
  distinct : (kept.filterMap Prod.snd).Nodup
  valid : ∀ name ∈ kept.filterMap Prod.snd, IsGroupName name

variable {kept : List (Nat × Option String)} {p : Pattern}

theorem Expr.ordered_groups {pattern : String} {e : Expr} (h : Expr.parse pattern = .ok e)
    (all : Bool) : Ordered (e.groups all) := by
  obtain ⟨⟨n, hnumbers⟩, hdistinct, hvalid⟩ := groups_of_parse h
  have hsub : (e.groups all).Sublist (e.groups true) := by
    cases all with
    | true => exact List.Sublist.refl _
    | false => exact sublist_groups e
  have hmap := hsub.map Prod.fst
  refine ⟨?_, fun g hg => ?_, hdistinct.sublist (hsub.filterMap _), fun name hname =>
    hvalid name ((hsub.filterMap _).subset hname)⟩
  · exact (hnumbers ▸ List.pairwise_lt_range').sublist hmap
  · have hmem : g.1 ∈ List.range' 1 n := hnumbers ▸ hmap.subset (List.mem_map_of_mem hg)
    have hpos := (List.mem_range'_1.1 hmem).1
    omega

namespace Ordered

theorem eq_of_fst (h : Ordered kept) {g g' : Nat × Option String} (hg : g ∈ kept) (hg' : g' ∈ kept)
    (heq : g.1 = g'.1) : g = g' := by
  have hnodup : (kept.map Prod.fst).Nodup := h.rising.imp Nat.ne_of_lt
  exact List.inj_on_of_nodup_map hnodup hg hg' heq

theorem fst_eq_of_name (h : Ordered kept) {i j : Nat} {name : String} (hi : (i, some name) ∈ kept)
    (hj : (j, some name) ∈ kept) : i = j := by
  by_contra hne
  have hpairs := List.pairwise_filterMap.1 h.distinct
  have : Std.Symm fun g g' : Nat × Option String =>
      ∀ n, g.2 = some n → ∀ n', g'.2 = some n' → n ≠ n' :=
    ⟨fun _ _ hr n hn n' hn' => (hr n' hn' n hn).symm⟩
  exact hpairs.forall hi hj (fun heq => hne (congrArg Prod.fst heq)) name rfl name rfl rfl

def lastNumber (kept : List (Nat × Option String)) : Nat := (kept.getLast?.map Prod.fst).getD 0

theorem le_lastNumber (h : Ordered kept) {g : Nat × Option String} (hg : g ∈ kept) :
    g.1 ≤ lastNumber kept := by
  obtain rfl | ⟨front, last, rfl⟩ := List.eq_nil_or_concat' kept
  · cases hg
  · have hrising := h.rising
    rw [List.map_append, List.pairwise_append] at hrising
    simp only [lastNumber, List.getLast?_concat, Option.map_some, Option.getD_some]
    rcases List.mem_append.1 hg with hg | hg
    · exact Nat.le_of_lt (hrising.2.2 _ (List.mem_map_of_mem hg) _ (List.mem_singleton_self _))
    · rw [List.mem_singleton.1 hg]

theorem lastNumber_cases (kept : List (Nat × Option String)) :
    kept = [] ∧ lastNumber kept = 0 ∨ ∃ g ∈ kept, lastNumber kept = g.1 := by
  obtain rfl | ⟨front, last, rfl⟩ := List.eq_nil_or_concat' kept
  · exact .inl ⟨rfl, rfl⟩
  · refine .inr ⟨last, by simp, ?_⟩
    simp [lastNumber]

end Ordered

theorem Expr.number_ne_zero {pattern : String} {e : Expr} (he : Expr.parse pattern = .ok e)
    (hp : e.pattern = .ok p) : ∀ g ∈ p.groups, g.1 ≠ 0 :=
  fun g hg => (ordered_groups he false).positive g ((mem_groups_pattern hp g).1 hg)

theorem Expr.length_groups {pattern : String} {e : Expr} (he : Expr.parse pattern = .ok e) :
    (e.groups true).length = Ordered.lastNumber (e.groups true) := by
  obtain ⟨⟨n, hnumbers⟩, -, -⟩ := groups_of_parse he
  have hlength := congrArg List.length hnumbers
  rw [List.length_map, List.length_range'] at hlength
  rw [Ordered.lastNumber, ← List.getLast?_map, hnumbers, hlength]
  rcases n with _ | n
  · rfl
  · rw [List.range'_1_concat, List.getLast?_concat, Option.getD_some, Nat.add_comm]

theorem filterMap_range_of_rising {β : Type} {f : Nat → Option β} {keys : List Nat} {n : Nat}
    (hrising : keys.Pairwise (· < ·)) (hlt : ∀ i ∈ keys, i < n) (hnone : ∀ i, i ∉ keys → f i = none) :
    (List.range n).filterMap f = keys.filterMap f := by
  have hkeys : (List.range n).filter (fun i => decide (i ∈ keys)) = keys := by
    refine List.Pairwise.eq_of_mem_iff (List.pairwise_lt_range.filter _) hrising fun i => ?_
    rw [List.mem_filter, decide_eq_true_iff, List.mem_range]
    exact ⟨And.right, fun hi => ⟨hlt i hi, hi⟩⟩
  conv_rhs => rw [← hkeys, List.filterMap_filter]
  refine List.filterMap_congr fun i _ => ?_
  split
  · rfl
  · next hnot => exact hnone i fun hi => hnot (decide_eq_true hi)

section Table

variable (h : Ordered kept) (hmem : ∀ g, g ∈ p.groups ↔ g ∈ kept)

include h hmem

theorem lookup_groups {i : Nat} {name : Option String} :
    p.groups.lookup i = some name ↔ (i, name) ∈ kept := by
  have hsound {name : Option String} (hl : p.groups.lookup i = some name) : (i, name) ∈ kept := by
    obtain ⟨front, back, hgroups, -⟩ := List.lookup_eq_some_iff.1 hl
    exact (hmem _).1 (hgroups ▸ List.mem_append_right _ List.mem_cons_self)
  refine ⟨hsound, fun hg => ?_⟩
  rcases hl : p.groups.lookup i with _ | name'
  · have hnone := List.lookup_eq_none_iff.1 hl _ ((hmem _).2 hg)
    simp at hnone
  · have heq := h.eq_of_fst hg (hsound hl) rfl
    rw [(Prod.mk.inj heq).2]

omit h in
theorem groupNames_cases :
    (∀ g ∈ kept, g.1 < p.groupNames.length) ∧
      (p.groupNames.length = 1 ∨ ∃ g ∈ kept, p.groupNames.length = g.1 + 1) := by
  simpa only [hmem] using Pattern.length_groupNames_cases p

theorem length_groupNames : p.groupNames.length = Ordered.lastNumber kept + 1 := by
  obtain ⟨hall, heq⟩ := groupNames_cases hmem
  rcases Ordered.lastNumber_cases kept with ⟨rfl, hlast⟩ | ⟨last, hlast, hnumber⟩
  · rw [hlast]
    exact heq.resolve_right fun ⟨_, hg, _⟩ => nomatch hg
  · have hlt := hall last hlast
    rcases heq with heq | ⟨g, hg, heq⟩
    · have hpos := h.positive last hlast
      omega
    · have hle := h.le_lastNumber hg
      omega

theorem getElem?_groupNames {i : Nat} {name : String} :
    p.groupNames[i]? = some (some name) ↔ (i, some name) ∈ kept := by
  rw [← lookup_groups h hmem]
  constructor
  · intro hname
    rw [Pattern.groupNames, List.getElem?_map] at hname
    obtain ⟨j, hj, hname⟩ := Option.map_eq_some_iff.1 hname
    obtain ⟨hlt, hij⟩ := List.getElem?_eq_some_iff.1 hj
    rw [List.getElem_range] at hij
    subst hij
    rcases hl : p.groups.lookup i with _ | found
    · rw [hl] at hname
      cases hname
    · rw [hl] at hname
      exact congrArg some hname
  · intro hl
    have hlt := (groupNames_cases hmem).1 _ ((lookup_groups h hmem).1 hl)
    simp only [Pattern.groupNames, List.length_map, List.length_range] at hlt
    rw [Pattern.groupNames, List.getElem?_map, List.getElem?_range hlt, Option.map_some, hl]
    rfl

theorem namedGroups_eq {m : Match} (hgroups : m.groups.length = p.groupNames.length) :
    namedGroups ⟨p.groupNames, p.program.toArray⟩ m =
      kept.filterMap fun g => g.2.map fun name => (name, m.groups[g.1]?.join) := by
  have hzip : p.groupNames.zip m.groups = (List.range p.groupNames.length).map
      fun i => ((p.groups.lookup i).getD none, m.groups[i]?.join) := by
    refine List.ext_getElem (by simp [hgroups]) fun i hi _ => ?_
    rw [List.length_zip, hgroups, Nat.min_self] at hi
    have hname : p.groupNames[i] = (p.groups.lookup i).getD none := by simp [Pattern.groupNames]
    simp [hname, hgroups ▸ hi]
  have hlt : ∀ i ∈ kept.map Prod.fst, i < p.groupNames.length :=
    List.forall_mem_map.2 (groupNames_cases hmem).1
  have hnone : ∀ i, i ∉ kept.map Prod.fst → p.groups.lookup i = none := by
    refine fun i hi => Option.eq_none_iff_forall_ne_some.2 fun name hname => hi ?_
    exact List.mem_map.2 ⟨_, (lookup_groups h hmem).1 hname, rfl⟩
  rw [namedGroups, hzip, List.filterMap_map, filterMap_range_of_rising h.rising hlt fun i hi => by
    simp [hnone i hi], List.filterMap_map]
  refine List.filterMap_congr fun g hg => ?_
  simp [(lookup_groups h hmem).2 hg]

end Table

end ClaimRules.Regex
