import ClaimRules.Proofs.Requirements
import Mathlib.Data.String.Basic

/-! Comparisons of values. Equality is structural, and the order is found by another comparison; on texts
and on integers the two agree and make up a total order. -/

namespace ClaimRules

namespace Value

def Below : Value → Value → Prop
  | .string a, .string b => List.Lex (fun c d => c.toNat < d.toNat) a.toList b.toList
  | .integer m, .integer n => m.toInt < n.toInt
  | _, _ => False

def Orderable (left right : Value) : Prop :=
  left.kind = right.kind ∧ (left.kind = .string ∨ left.kind = .integer)

variable {left middle right : Value}

theorem Below.trans (h : left.Below middle) (hm : middle.Below right) : left.Below right := by
  cases left with
  | string a =>
    cases middle <;> cases right <;> simp only [Below] at h hm ⊢
    next b c =>
      have hab : a < b := String.lt_iff_toList_lt.2 h
      have hbc : b < c := String.lt_iff_toList_lt.2 hm
      exact String.lt_iff_toList_lt.1 (lt_trans hab hbc)
  | integer m =>
    cases middle <;> cases right <;> simp only [Below] at h hm ⊢
    exact Int.lt_trans h hm
  | _ => exact h.elim

theorem integer_same_integer (m n : Int64) :
    (integer m).same (integer n) = (compare m.toInt n.toInt).isEq := by
  have heq : (m == n) = (m.toInt == n.toInt) := by
    rw [Bool.eq_iff_iff, beq_iff_eq, beq_iff_eq, Int64.toInt_inj]
  rw [same, heq, Std.isEq_compare_eq_beq]

theorem string_same_string (a b : String) :
    (string a).same (string b) = (compare a b).isEq := by
  rw [same, Std.isEq_compare_eq_beq]

theorem Orderable.exists_order (h : left.Orderable right) :
    ∃ order : Ordering, Statement.order? left right = some (some order) ∧
      Statement.order? right left = some (some order.swap) ∧
      left.same right = order.isEq ∧ right.same left = order.swap.isEq ∧
      (order.isLT = true ↔ left.Below right) := by
  obtain ⟨hkind, hsort⟩ := h
  cases left <;> cases right <;> simp [kind] at hkind hsort
  next a b =>
    have hswap : compare b a = (compare a b).swap := Std.OrientedCmp.eq_swap
    have hless : compare a b = .lt ↔ a < b := compare_lt_iff_lt
    refine ⟨compare a b, rfl, ?_, string_same_string a b, ?_, ?_⟩
    · rw [Statement.order?, hswap]
    · rw [string_same_string, hswap]
    · rw [Ordering.isLT_iff_eq_lt, hless]
      exact String.lt_iff_toList_lt
  next m n =>
    have hswap : compare n.toInt m.toInt = (compare m.toInt n.toInt).swap := Std.OrientedCmp.eq_swap
    refine ⟨compare m.toInt n.toInt, rfl, ?_, integer_same_integer m n, ?_, ?_⟩
    · rw [Statement.order?, hswap]
    · rw [integer_same_integer, hswap]
    · rw [Ordering.isLT_iff_eq_lt, Int.compare_eq_lt]
      rfl

end Value

structure Statement.Compares (s : Statement) (bindings : Bindings) (left : Value) (operator : String)
    (right : Value) : Prop where
  verb : s.verb = .ok .compare
  left : s.Yields bindings 1 left
  operator : s.Yields bindings 2 (.string operator)
  right : s.Yields bindings 3 right

def Value.Answers (left : Value) (operator : String) (right : Value) (flag : Bool) : Prop :=
  ∀ (s : Statement) (ctx : Context), s.Compares ctx.bindings left operator right →
    s.execute ctx = (.ok .statementContinue, ⟨ctx.bindings, flag⟩)

def Value.Refuses (left : Value) (operator : String) (right : Value) (kind : ErrorKind) : Prop :=
  ∀ (s : Statement) (ctx : Context), s.Compares ctx.bindings left operator right →
    s.FailsWith ctx kind

structure Value.Ranks (left right : Value) (less equal greater : Bool) : Prop where
  isLess : left.Answers "<" right less
  isEqual : left.Answers "==" right equal
  isGreater : left.Answers ">" right greater
  isAtMost : left.Answers "<=" right (less || equal)
  isAtLeast : left.Answers ">=" right (greater || equal)
  isOther : left.Answers "!=" right (!equal)

namespace Statement

variable {s : Statement} {ctx : Context} {left right : Value} {operator : String} {flag : Bool}
  {e : Error}

theorem compares_of_items {bindings : Bindings} {first second : Value}
    (ho : Operand.ofValue (.string operator) = .constant (.string operator))
    (hl : (Operand.ofValue first).resolve bindings = .ok left)
    (hr : (Operand.ofValue second).resolve bindings = .ok right) :
    (⟨[.string "compare", first, .string operator, second]⟩ : Statement).Compares bindings left
      operator right := by
  have hoperator : (Operand.ofValue (.string operator)).resolve bindings = .ok (.string operator) := by
    rw [ho]
    rfl
  exact ⟨rfl, ⟨_, rfl, hl⟩, ⟨_, rfl, hoperator⟩, ⟨_, rfl, hr⟩⟩

theorem exists_compares (left : Value) (operator : String) (right : Value) :
    ∃ (s : Statement) (ctx : Context), s.Compares ctx.bindings left operator right := by
  let s : Statement := ⟨[.string "compare", .string "$left", .string "$operator", .string "$right"]⟩
  let bindings : Bindings := [("left", left), ("operator", .string operator), ("right", right)]
  have hleft : s.Yields bindings 1 left := ⟨.reference ⟨"left", none⟩, rfl, rfl⟩
  have hoperator : s.Yields bindings 2 (.string operator) :=
    ⟨.reference ⟨"operator", none⟩, rfl, rfl⟩
  have hright : s.Yields bindings 3 right := ⟨.reference ⟨"right", none⟩, rfl, rfl⟩
  exact ⟨s, ⟨bindings, false⟩, rfl, hleft, hoperator, hright⟩

namespace Compares

theorem effect_eq (h : s.Compares ctx.bindings left operator right) :
    s.effect ctx =
      if left.kind = right.kind then (compareValues left operator right).map .test
      else .error (.statement (.kindsDiffer left.kind right.kind)) := by
  rw [effect_of_verb h.verb]
  simp only [verbEffect, value_eq_ok_iff.2 h.left, string_eq_ok_iff.2 h.operator,
    value_eq_ok_iff.2 h.right, bind, Except.bind]
  split
  · cases compareValues left operator right <;> rfl
  · rfl

theorem execute_of_ok (h : s.Compares ctx.bindings left operator right)
    (hk : left.kind = right.kind) (hc : compareValues left operator right = .ok flag) :
    s.execute ctx = (.ok .statementContinue, ⟨ctx.bindings, flag⟩) := by
  have heffect : s.effect ctx = .ok (.test flag) := by
    rw [h.effect_eq, if_pos hk, hc]
    rfl
  rw [execute, heffect]
  rfl

theorem execute_of_error (h : s.Compares ctx.bindings left operator right)
    (hk : left.kind = right.kind) (hc : compareValues left operator right = .error e) :
    s.execute ctx = (.error e, ctx) := by
  have heffect : s.effect ctx = .error e := by
    rw [h.effect_eq, if_pos hk, hc]
    rfl
  rw [execute, heffect]

theorem execute_of_kinds (h : s.Compares ctx.bindings left operator right)
    (hk : left.kind ≠ right.kind) :
    s.execute ctx = (.error (.statement (.kindsDiffer left.kind right.kind)), ctx) := by
  have heffect : s.effect ctx = .error (.statement (.kindsDiffer left.kind right.kind)) := by
    rw [h.effect_eq, if_neg hk]
  rw [execute, heffect]

end Compares

theorem compareValues_of_test {test : OrderTest}
    (ht : OrderTest.ofOperator? operator = some test) :
    compareValues left operator right =
      match order? left right with
      | none => .error (.statement (.unordered operator left.kind))
      | some order => .ok (test.passes order) := by
  unfold compareValues
  split
  · cases ht
  · cases ht
  · rcases order? left right with _ | order <;> simp only [ht]

end Statement

namespace Value

variable {left middle right : Value} {operator : String} {flag : Bool}

theorem answers_iff :
    left.Answers operator right flag ↔
      left.kind = right.kind ∧ Statement.compareValues left operator right = .ok flag := by
  constructor
  · intro h
    -- an answer in every context says something only because there is a statement to ask
    obtain ⟨s, ctx, hs⟩ := Statement.exists_compares left operator right
    have hflag := h s ctx hs
    by_cases hk : left.kind = right.kind
    · refine ⟨hk, ?_⟩
      rcases hc : Statement.compareValues left operator right with e | found
      · rw [hs.execute_of_error hk hc] at hflag
        cases hflag
      · rw [hs.execute_of_ok hk hc] at hflag
        cases hflag
        rfl
    · rw [hs.execute_of_kinds hk] at hflag
      cases hflag
  · rintro ⟨hk, hc⟩ s ctx hs
    exact hs.execute_of_ok hk hc

theorem answers_equal (hk : left.kind = right.kind) :
    left.Answers "==" right (left.same right) ∧ left.Answers "!=" right (!left.same right) :=
  ⟨answers_iff.2 ⟨hk, rfl⟩, answers_iff.2 ⟨hk, rfl⟩⟩

theorem ranks_of_order {order : Ordering} (hk : left.kind = right.kind)
    (ho : Statement.order? left right = some (some order)) (hs : left.same right = order.isEq) :
    left.Ranks right order.isLT order.isEq order.isGT := by
  have hanswers {operator : String} (test : Statement.OrderTest)
      (ht : Statement.OrderTest.ofOperator? operator = some test) :
      left.Answers operator right (test.passes (some order)) := by
    refine answers_iff.2 ⟨hk, ?_⟩
    rw [Statement.compareValues_of_test ht, ho]
  obtain ⟨hequal, hdiffer⟩ := answers_equal hk
  rw [hs] at hequal hdiffer
  have hle : order.isLE = (order.isLT || order.isEq) := by cases order <;> rfl
  have hge : order.isGE = (order.isGT || order.isEq) := by cases order <;> rfl
  refine ⟨hanswers .less rfl, hequal, hanswers .greater rfl, ?_, ?_, hdiffer⟩
  · rw [← hle]
    exact hanswers .lessOrEqual rfl
  · rw [← hge]
    exact hanswers .greaterOrEqual rfl

theorem answers_less_iff (h : left.Orderable right) :
    left.Answers "<" right true ↔ left.Below right := by
  obtain ⟨order, ho, -, -, -, hbelow⟩ := h.exists_order
  rw [answers_iff, Statement.compareValues_of_test rfl, ho, ← hbelow]
  simp [h.1, Statement.OrderTest.passes]

/-- Of two texts or two integers exactly one is less than, equal to or greater than the other, as texts
by the numbers of their characters; the other comparisons go by these three, turned round they say the
same, and what is less than less is less. Values of different kinds are not compared at all, and those
without an order only told apart. -/
theorem compare_coherent (left right : Value) :
    (left.Orderable right → ∃ less equal greater, left.Ranks right less equal greater ∧
      right.Ranks left greater equal less ∧ [less, equal, greater].count true = 1 ∧
        (less = true ↔ left.Below right)) ∧
    (left.kind = .string ∨ left.kind = .integer → ∀ middle : Value,
      left.Answers "<" middle true → middle.Answers "<" right true → left.Answers "<" right true) ∧
    (left.kind ≠ right.kind →
      ∀ operator ∈ ["<", "==", ">", "<=", ">=", "!="], left.Refuses operator right .invalidType) ∧
    (left.kind = right.kind → left.kind ∈ [Kind.array, .map, .boolean, .null] →
      (∀ operator ∈ ["<", ">", "<=", ">="], left.Refuses operator right .invalidRule) ∧
        ∃ equal, left.Answers "==" right equal ∧ left.Answers "!=" right (!equal)) := by
  refine ⟨fun h => ?_, fun hsort middle hleft hright => ?_, fun hk operator _ s ctx hs => ?_,
    fun hk hsort => ⟨fun operator hoperator s ctx hs => ?_, _, answers_equal hk⟩⟩
  · obtain ⟨order, ho, hswap, hsame, hsameSwap, hbelow⟩ := h.exists_order
    -- turned round, the same order is read from the other end
    have hforth := ranks_of_order h.1 ho hsame
    have hback := ranks_of_order h.1.symm hswap hsameSwap
    refine ⟨order.isLT, order.isEq, order.isGT, hforth, ?_, ?_, hbelow⟩
    · cases order <;> exact hback
    · cases order <;> rfl
  · obtain ⟨hkl, -⟩ := answers_iff.1 hleft
    obtain ⟨hkr, -⟩ := answers_iff.1 hright
    have hlm : left.Orderable middle := ⟨hkl, hsort⟩
    have hmr : middle.Orderable right := ⟨hkr, hkl ▸ hsort⟩
    have hlr : left.Orderable right := ⟨hkl.trans hkr, hsort⟩
    have hbelow : left.Below middle := (answers_less_iff hlm).1 hleft
    exact (answers_less_iff hlr).2 (hbelow.trans ((answers_less_iff hmr).1 hright))
  · exact ⟨_, hs.execute_of_kinds hk, rfl⟩
  · obtain ⟨test, ht⟩ := Statement.OrderTest.ofOperator?_isSome_iff.2 hoperator
    have ho : Statement.order? left right = none := by
      cases left <;> cases right <;> first | rfl | simp [kind] at hsort
    have hrefused : Statement.compareValues left operator right =
        .error (.statement (.unordered operator left.kind)) := by
      rw [Statement.compareValues_of_test ht, ho]
    exact ⟨_, hs.execute_of_error hk hrefused, rfl⟩

theorem compare_coherent_astral :
    let compare (left operator right : String) : Statement :=
      ⟨[.string "compare", .string left, .string operator, .string right]⟩
    let a : Value := .string "a\uFFFD"
    let b : Value := .string "a𐀀"
    let c : Value := .string "b"
    let bindings : Bindings := [("a", a), ("b", b), ("c", c), ("t", .boolean true)]
    let ctx : Context := ⟨bindings, false⟩
    (compare "$a" "<" "$b").execute ctx = (.ok .statementContinue, ⟨bindings, true⟩) ∧
      (compare "$b" ">=" "$a").execute ctx = (.ok .statementContinue, ⟨bindings, true⟩) ∧
      (compare "$a" "<" "$c").execute ctx = (.ok .statementContinue, ⟨bindings, true⟩) ∧
      (compare "$t" "==" "$a").FailsWith ctx .invalidType ∧
      (compare "$t" "<=" "$t").FailsWith ctx .invalidRule := by
  intro compare a b c bindings ctx
  obtain ⟨hab, -, -, -⟩ := compare_coherent a b
  obtain ⟨-, htrans, -, -⟩ := compare_coherent a c
  obtain ⟨hbc, -, -, -⟩ := compare_coherent b c
  obtain ⟨less, equal, greater, hforth, hback, -, hless⟩ := hab ⟨rfl, .inl rfl⟩
  obtain ⟨lessNext, _, _, hnext, -, -, hlessNext⟩ := hbc ⟨rfl, .inl rfl⟩
  have hbelow : a.Below b := .cons (.rel (by decide))
  have hbelowNext : b.Below c := .rel (by decide)
  cases hless.2 hbelow
  cases hlessNext.2 hbelowNext
  have hless : a.Answers "<" c true := htrans (.inl rfl) b hforth.isLess hnext.isLess
  obtain ⟨-, -, hkinds, -⟩ := compare_coherent (.boolean true) a
  obtain ⟨-, -, -, hunordered⟩ := compare_coherent (.boolean true) (.boolean true)
  obtain ⟨hrefused, -⟩ := hunordered rfl (by decide)
  exact ⟨hforth.isLess _ _ (Statement.compares_of_items rfl rfl rfl),
    hback.isAtLeast _ _ (Statement.compares_of_items rfl rfl rfl),
    hless _ _ (Statement.compares_of_items rfl rfl rfl),
    hkinds (by decide) "==" (by decide) _ _ (Statement.compares_of_items rfl rfl rfl),
    hrefused "<=" (by decide) _ _ (Statement.compares_of_items rfl rfl rfl)⟩

end Value
end ClaimRules
