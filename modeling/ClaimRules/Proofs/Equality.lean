import ClaimRules.Proofs.Parts
import Mathlib.Data.List.Perm.Subperm

/-! Equality of values, as rules see it. It is transitive, and between values with distinct keys it
is symmetric, although some reals are not equal to themselves. -/

namespace ClaimRules

namespace Binary64

variable {x y z : Binary64}

theorem same_comm (x y : Binary64) : x.same y = y.same x := by
  simp only [same, Bool.and_comm (!x.isNaN), Bool.beq_comm (a := x.place)]

theorem same_trans (hxy : x.same y = true) (hyz : y.same z = true) : x.same z = true := by
  simp only [same, Bool.and_eq_true, Bool.not_eq_true', beq_iff_eq] at *
  exact ⟨⟨hxy.1.1, hyz.1.2⟩, hxy.2.trans hyz.2⟩

end Binary64

theorem forall₂_trans_of_mem {α : Type} {R : α → α → Prop} {as bs cs : List α}
    (h : ∀ a ∈ as, ∀ b c, R a b → R b c → R a c) (hab : List.Forall₂ R as bs)
    (hbc : List.Forall₂ R bs cs) : List.Forall₂ R as cs := by
  induction hab generalizing cs with
  | nil => exact hbc
  | cons hfirst _ ih =>
    cases hbc with
    | cons hnext hrest =>
      refine .cons (h _ List.mem_cons_self _ _ hfirst hnext) (ih (fun a ha => ?_) hrest)
      exact h a (List.mem_cons_of_mem _ ha)

theorem forall₂_symm_of_mem {α : Type} {R : α → α → Prop} {as bs : List α}
    (h : ∀ a ∈ as, ∀ b ∈ bs, R a b → R b a) (hab : List.Forall₂ R as bs) :
    List.Forall₂ R bs as := by
  induction hab with
  | nil => exact .nil
  | cons hfirst _ ih =>
    refine .cons (h _ List.mem_cons_self _ List.mem_cons_self hfirst) (ih fun a ha b hb => ?_)
    exact h a (List.mem_cons_of_mem _ ha) b (List.mem_cons_of_mem _ hb)

/-- A map of the same size as another one with distinct keys has no keys of its own if it has all
those of the other. -/
theorem Entries.keys_subset_of_length_eq {α β : Type} {entries : Entries α} {others : Entries β}
    (hd : entries.Distinct) (hlength : entries.length = others.length)
    (h : keys entries ⊆ keys others) : keys others ⊆ keys entries := by
  have hperm : (keys entries).Perm (keys others) :=
    (List.subperm_of_subset hd h).perm_of_length_le (by simp [keys, hlength])
  exact hperm.symm.subset

namespace Value

variable {value other third : Value} {items others : List Value} {entries : Entries Value}

theorem sameItems_iff :
    sameItems items others = true ↔
      List.Forall₂ (fun item other => item.same other = true) items others := by
  induction items generalizing others with
  | nil => cases others <;> simp [sameItems]
  | cons item rest ih => cases others <;> simp [sameItems, ih]

theorem sameEntries_iff {part : Entries Value} :
    sameEntries part entries = true ↔
      ∀ entry ∈ part, ∃ found, Entries.get? entries entry.1 = some found ∧
        entry.2.same found = true := by
  induction part with
  | nil => simp [sameEntries]
  | cons entry rest ih =>
    rw [sameEntries, Bool.and_eq_true, ih, List.forall_mem_cons]
    refine and_congr_left fun _ => ?_
    rcases Entries.get? entries entry.1 with _ | found <;> simp

theorem same_array_iff :
    (array items).same value = true ↔
      ∃ others, value = array others ∧
        List.Forall₂ (fun item other => item.same other = true) items others := by
  cases value <;> simp [same, sameItems_iff]

theorem same_map_iff :
    (map entries).same value = true ↔
      ∃ others, value = map others ∧ entries.length = others.length ∧
        ∀ entry ∈ entries, ∃ found, Entries.get? others entry.1 = some found ∧
          entry.2.same found = true := by
  cases value <;> simp [same, sameEntries_iff]

theorem same_trans (h : value.same other = true) (hother : other.same third = true) :
    value.same third = true := by
  induction value using Value.induction generalizing other third with
  | array items ih =>
    obtain ⟨others, rfl, hitems⟩ := same_array_iff.1 h
    obtain ⟨thirds, rfl, hothers⟩ := same_array_iff.1 hother
    refine same_array_iff.2 ⟨thirds, rfl, forall₂_trans_of_mem ?_ hitems hothers⟩
    exact fun item hi _ _ => ih item hi
  | map entries ih =>
    obtain ⟨others, rfl, hlength, hentries⟩ := same_map_iff.1 h
    obtain ⟨thirds, rfl, hlengths, hothers⟩ := same_map_iff.1 hother
    refine same_map_iff.2 ⟨thirds, rfl, hlength.trans hlengths, fun entry he => ?_⟩
    obtain ⟨found, hg, hs⟩ := hentries entry he
    obtain ⟨last, hl, hsl⟩ := hothers _ (Entries.mem_of_get? hg)
    exact ⟨last, hl, ih entry he hs hsl⟩
  | real x =>
    cases other <;> cases third <;> simp only [same, Bool.false_eq_true] at h hother ⊢
    exact Binary64.same_trans h hother
  | _ => cases other <;> cases third <;> simp_all [same]

abbrev DistinctKeys (value : Value) : Prop := value.Regular fun _ => True

theorem same_symm (hv : value.DistinctKeys) (ho : other.DistinctKeys)
    (h : value.same other = true) : other.same value = true := by
  induction value using Value.induction generalizing other with
  | array items ih =>
    obtain ⟨others, rfl, hitems⟩ := same_array_iff.1 h
    have hv := regular_array.1 hv
    have ho := regular_array.1 ho
    refine same_array_iff.2 ⟨items, rfl, forall₂_symm_of_mem (fun item hi other hm => ?_) hitems⟩
    exact ih item hi (hv item hi) (ho other hm)
  | map entries ih =>
    obtain ⟨others, rfl, hlength, hentries⟩ := same_map_iff.1 h
    obtain ⟨hd, hall⟩ := regular_map.1 hv
    obtain ⟨hdo, hallo⟩ := regular_map.1 ho
    refine same_map_iff.2 ⟨entries, rfl, hlength.symm, fun entry he => ?_⟩
    have hkeys : Entries.keys entries ⊆ Entries.keys others := by
      intro key hk
      obtain ⟨entry, he, rfl⟩ := List.mem_map.1 hk
      obtain ⟨found, hg, -⟩ := hentries entry he
      exact List.mem_map.2 ⟨_, Entries.mem_of_get? hg, rfl⟩
    -- the sizes leave no entry of the second map without a partner in the first one
    obtain ⟨partner, hp, hkey⟩ := List.mem_map.1
      (Entries.keys_subset_of_length_eq hd hlength hkeys (List.mem_map.2 ⟨entry, he, rfl⟩))
    obtain ⟨found, hg, hs⟩ := hentries partner hp
    rw [hkey, Entries.get?_of_mem hdo he] at hg
    cases hg
    exact ⟨partner.2, hkey ▸ Entries.get?_of_mem hd hp, ih partner hp (hall _ hp) (hallo _ he) hs⟩
  | real x =>
    cases other <;> simp only [same, Bool.false_eq_true] at h ⊢
    exact (Binary64.same_comm ..).trans h
  | _ => cases other <;> simp_all [same]

end Value
end ClaimRules
