import ClaimRules.Proofs.PatternGroups
import ClaimRules.Proofs.PlainPatterns
import Mathlib.Data.List.Nodup

/-! The numbers and names of groups. However groups are nested, they are numbered from one on in the order in
which they open, and no two of them have the same name. -/

namespace ClaimRules.Regex

def IsGroupName (name : String) : Prop :=
  ∃ first others, name.toList = first :: others ∧ isNameStart first = true ∧
    others.all isNamePart = true

namespace Expr

theorem groupsOfAll_append (all : Bool) (front back : List Expr) :
    groupsOfAll all (front ++ back) = groupsOfAll all front ++ groupsOfAll all back := by
  induction front with
  | nil => rfl
  | cons part rest ih => rw [List.cons_append, groupsOfAll, groupsOfAll, ih, List.append_assoc]

theorem groups_ofParts (all : Bool) (parts : List Expr) :
    (ofParts parts).groups all = groupsOfAll all parts := by
  rcases parts with _ | ⟨part, _ | ⟨next, rest⟩⟩
  · rfl
  · rw [groupsOfAll, groupsOfAll, List.append_nil]
    rfl
  · rfl

end Expr

def GroupKind.opened : GroupKind → List (Nat × Option String)
  | .capture index name => [(index, name)]
  | .plain _ => []

theorem Expr.groups_group (all : Bool) (kind : GroupKind) (body : Expr) :
    (Expr.group kind body).groups all = kind.opened ++ body.groups all := by
  cases kind <;> rfl

namespace Level

/-- The groups inside of a group that is being read, so far. -/
def groups (l : Level) : List (Nat × Option String) :=
  Expr.groupsOfAll true (l.branches.reverse ++ l.parts.reverse)

theorem groups_expr (l : Level) : l.expr.groups true = l.groups := by
  unfold expr groups
  split
  · next h => rw [h, Expr.groups_ofParts, List.reverse_nil, List.nil_append]
  · rw [Expr.groups, Expr.groupsOfAll_append, Expr.groupsOfAll_append, Expr.groupsOfAll,
      Expr.groups_ofParts, Expr.groupsOfAll, List.append_nil]

end Level

namespace Reading

variable {r r' : Reading} {rest rest' : List Char} {c : Char}

def groups (r : Reading) : List (Nat × Option String) :=
  (r.level :: r.outer).reverse.flatMap fun l => l.kind.opened ++ l.groups

/-- All groups that have been opened have their numbers and, some of them, names of their own. -/
structure Numbered (r : Reading) : Prop where
  whole : ((r.level :: r.outer).map Level.kind).getLast? = some (.plain [])
  numbers : r.groups.map Prod.fst = List.range' 1 r.captures
  names : r.groups.filterMap Prod.snd = r.names.reverse
  nodup : r.names.Nodup
  valid : ∀ name ∈ r.names, IsGroupName name

theorem groups_eq (r : Reading) :
    r.groups = r.outer.reverse.flatMap (fun l => l.kind.opened ++ l.groups) ++
      (r.level.kind.opened ++ r.level.groups) := by
  rw [groups, List.reverse_cons, List.flatMap_append, List.flatMap_singleton]

theorem numbered_start : Numbered .start :=
  ⟨rfl, rfl, rfl, List.nodup_nil, nofun⟩

namespace Numbered

theorem quiet (h : r.Numbered) (hgroups : r'.groups = r.groups) (hcaptures : r'.captures = r.captures)
    (hnames : r'.names = r.names)
    (hkinds : ((r'.level :: r'.outer).map Level.kind).getLast? =
      ((r.level :: r.outer).map Level.kind).getLast?) : r'.Numbered :=
  ⟨hkinds.trans h.whole, by rw [hgroups, hcaptures, h.numbers], by rw [hgroups, hnames, h.names],
    hnames ▸ h.nodup, hnames ▸ h.valid⟩

theorem push (h : r.Numbered) {e : Expr} (he : e.groups true = []) : (r.push e).Numbered := by
  refine h.quiet ?_ rfl rfl rfl
  simp only [groups_eq, Reading.push, Level.groups, List.reverse_cons, ← List.append_assoc,
    Expr.groupsOfAll_append, Expr.groupsOfAll, he, List.append_nil]

theorem flags (h : r.Numbered) (changes : FlagChanges) :
    ({ r with x := extendedAfter r.x changes }.push (.flags changes)).Numbered := by
  have hx : { r with x := extendedAfter r.x changes }.Numbered := h.quiet rfl rfl rfl rfl
  exact hx.push rfl

theorem branch (h : r.Numbered) : r.branch.Numbered := by
  refine h.quiet ?_ rfl rfl rfl
  simp only [groups_eq, Reading.branch, Level.groups, List.reverse_cons, List.reverse_nil,
    Expr.groupsOfAll_append, Expr.groupsOfAll, Expr.groups_ofParts, List.append_nil]

theorem repeatLast {least : Nat} {most : Option Nat} {greedy : Bool} (h : r.Numbered)
    (hr : r.repeatLast least most greedy = .ok r') : r'.Numbered := by
  obtain ⟨⟨body, earlier⟩, hparts, hr⟩ := bind_eq_ok_iff.1 hr
  cases hr
  refine h.quiet ?_ rfl rfl rfl
  have hbody : r.level.parts = body :: earlier := by
    unfold repeatable at hparts
    split at hparts <;> cases hparts
    assumption
  simp only [groups_eq, Level.groups, hbody, List.reverse_cons, ← List.append_assoc,
    Expr.groupsOfAll_append, Expr.groupsOfAll, Expr.groups, Bool.true_eq_false, false_and, if_false]

theorem leave (h : r.Numbered) (hr : r.leave = .ok r') : r'.Numbered := by
  unfold Reading.leave at hr
  split at hr
  · cases hr
  · next level outer houter =>
    cases hr
    refine h.quiet ?_ rfl rfl ?_
    · rw [groups_eq r, houter]
      simp only [groups_eq, Level.groups, List.reverse_cons, ← List.append_assoc,
        List.flatMap_append, List.flatMap_singleton, Expr.groupsOfAll_append, Expr.groupsOfAll,
        List.append_nil, Expr.groups_group, Level.groups_expr]
    · rw [houter]
      rfl

theorem enterPlain (h : r.Numbered) (changes : FlagChanges) (x : Bool) :
    (r.enter (.plain changes) x).Numbered := by
  refine h.quiet ?_ rfl rfl rfl
  simp only [groups_eq, Reading.enter, GroupKind.opened, Level.groups, List.reverse_cons,
    List.reverse_nil, List.append_nil, Expr.groupsOfAll, List.flatMap_append,
    List.flatMap_singleton]

theorem groups_enterCapture (r : Reading) (name : Option String) :
    (r.enterCapture name).groups = r.groups ++ [(r.captures + 1, name)] := by
  simp only [groups_eq, Reading.enterCapture, Reading.enter, GroupKind.opened, Level.groups,
    List.reverse_cons, List.reverse_nil, List.append_nil, Expr.groupsOfAll, List.flatMap_append,
    List.flatMap_singleton]

theorem enterCapture (h : r.Numbered) (name : Option String)
    (hname : ∀ n ∈ name, n ∉ r.names ∧ IsGroupName n) :
    ({ r with names := name.toList ++ r.names }.enterCapture name).Numbered := by
  have hgroups : ({ r with names := name.toList ++ r.names }.enterCapture name).groups =
      r.groups ++ [(r.captures + 1, name)] := groups_enterCapture _ name
  refine ⟨h.whole, ?_, ?_, ?_, ?_⟩
  · rw [hgroups, List.map_append, h.numbers, List.map_singleton, Nat.add_comm]
    exact List.range'_1_concat.symm
  · rw [hgroups, List.filterMap_append, h.names]
    rcases name with _ | n
    · exact List.append_nil _
    · exact (List.reverse_cons ..).symm
  · rcases name with _ | n
    · exact h.nodup
    · exact List.nodup_cons.2 ⟨(hname n rfl).1, h.nodup⟩
  · rcases name with _ | n
    · exact h.valid
    · exact List.forall_mem_cons.2 ⟨(hname n rfl).2, h.valid⟩

theorem isGroupName_of_readName {text rest : List Char} {name : String}
    (h : readName text = .ok (name, rest)) : IsGroupName name := by
  unfold readName at h
  dsimp only at h
  split at h
  · cases h
  · cases h
  · next first others _ after hname _ =>
    split at h
    · next hvalid =>
      cases h
      rw [Bool.and_eq_true] at hvalid
      exact ⟨first, others, by rw [hname, String.toList_ofList], hvalid⟩
    · cases h

theorem enterNamed (h : r.Numbered) {text : List Char} (hr : r.enterNamed text = .ok (r', rest')) :
    r'.Numbered := by
  obtain ⟨⟨name, rest⟩, hname, hr⟩ := bind_eq_ok_iff.1 hr
  dsimp only at hr
  split at hr
  · cases hr
  · next hnew =>
    cases hr
    refine h.enterCapture (some name) ?_
    rintro _ ⟨⟩
    exact ⟨fun hmem => hnew (List.contains_iff_mem.2 hmem), isGroupName_of_readName hname⟩

theorem openGroup (h : r.Numbered) {text : List Char} (hr : r.openGroup text = .ok (r', rest')) :
    r'.Numbered := by
  unfold Reading.openGroup at hr
  split at hr
  case h_5 => exact h.enterNamed hr
  case h_6 => exact h.enterNamed hr
  case h_8 =>
    obtain ⟨⟨changes, rest⟩, -, hr⟩ := bind_eq_ok_iff.1 hr
    dsimp only at hr
    split at hr
    · split at hr
      · cases hr
      · cases hr
        exact h.flags changes
    · cases hr
      exact h.enterPlain changes _
  case h_9 =>
    cases hr
    exact h.enterCapture none nofun
  all_goals cases hr

theorem groups_bracketed {x : Bool} {text : List Char} {e : Expr}
    (h : readClass x text = .ok (e, rest)) : e.groups true = [] := by
  obtain ⟨⟨negated, parts, after⟩, -, h⟩ := bind_eq_ok_iff.1 h
  obtain ⟨⟨negated, set, after⟩, -, h⟩ := bind_eq_ok_iff.1 h
  cases h
  rfl

theorem step (h : r.Numbered) (hr : r.step c rest = .ok (r', rest')) : r'.Numbered := by
  have hcounted {least : Nat} {most : Option Nat} {greedy : Bool} {after : List Char}
      (hr : (do return (← r.repeatLast least most greedy, after)) = Except.ok (r', rest')) :
      r'.Numbered := by
    obtain ⟨r'', hlast, hr⟩ := bind_eq_ok_iff.1 hr
    cases hr
    exact h.repeatLast hlast
  rcases hg : readGreed rest with ⟨greedy, after⟩
  simp only [Reading.step, hg] at hr
  split at hr
  case h_1 => exact h.openGroup hr
  case h_2 =>
    obtain ⟨r'', hleave, hr⟩ := bind_eq_ok_iff.1 hr
    cases hr
    exact h.leave hleave
  case h_3 =>
    cases hr
    exact h.branch
  case h_4 =>
    obtain ⟨⟨e, after⟩, hclass, hr⟩ := bind_eq_ok_iff.1 hr
    cases hr
    exact h.push (groups_bracketed hclass)
  case h_5 => exact hcounted hr
  case h_6 => exact hcounted hr
  case h_7 => exact hcounted hr
  case h_8 =>
    obtain ⟨_, -, hr⟩ := bind_eq_ok_iff.1 hr
    obtain ⟨_, -, hr⟩ := bind_eq_ok_iff.1 hr
    exact hcounted hr
  case h_9 =>
    obtain ⟨⟨p, after⟩, -, hr⟩ := bind_eq_ok_iff.1 hr
    cases hr
    exact h.push (by cases p <;> rfl)
  all_goals
    cases hr
    exact h.push rfl

theorem run (h : r.Numbered) {fuel : Nat} {text : List Char} (hr : r.run fuel text = .ok r') :
    r'.Numbered := by
  induction fuel generalizing r text with
  | zero =>
    cases hr
    exact h
  | succ fuel ih =>
    rw [Reading.run] at hr
    split at hr
    · cases hr
      exact h
    · obtain ⟨⟨r'', rest⟩, hstep, hr⟩ := bind_eq_ok_iff.1 hr
      exact ih (h.step hstep) hr

end Numbered
end Reading

namespace Expr

variable {pattern : String} {e : Expr}

theorem groups_of_parse (h : parse pattern = .ok e) :
    (∃ n, (e.groups true).map Prod.fst = List.range' 1 n) ∧
      ((e.groups true).filterMap Prod.snd).Nodup ∧
      ∀ name ∈ (e.groups true).filterMap Prod.snd, IsGroupName name := by
  obtain ⟨r, hrun, houter, -, rfl⟩ := parse_eq_ok_iff.1 h
  have hr : r.Numbered := Reading.numbered_start.run hrun
  have hkind : r.level.kind = .plain [] := by
    have h := hr.whole
    rw [houter] at h
    exact Option.some.inj h
  have hgroups : r.level.expr.groups true = r.groups := by
    rw [Reading.groups_eq, houter, hkind, Level.groups_expr]
    rfl
  rw [hgroups, hr.names]
  exact ⟨⟨r.captures, hr.numbers⟩, List.nodup_reverse.2 hr.nodup,
    fun name hname => hr.valid name (List.mem_reverse.1 hname)⟩

end Expr
end ClaimRules.Regex
