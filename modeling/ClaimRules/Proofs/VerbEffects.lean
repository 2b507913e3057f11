import ClaimRules.Execution
import ClaimRules.Proofs.Result

/-! What each verb needs of its operands in order to have an effect, and which effect that is. -/

namespace ClaimRules

def Effect.target? : Effect → Option Reference
  | .store target _ => some target
  | .push target _ => some target
  | _ => none

namespace Statement

variable {s : Statement} {ctx : Context} {effect : Effect} {bindings : Bindings}

def foldValue? (fold : String → String) : Value → Option Value
  | .string text => some (.string (fold text))
  | .array items => (foldItems fold items).toOption.map .array
  | .map entries => some (.map (foldKeys fold entries))
  | _ => none

theorem set_iff : s.verbEffect .set ctx = .ok effect ↔
    ∃ target, s.target .set 1 = .ok target ∧
      ∃ value, s.value .set 2 ctx.bindings = .ok value ∧ .store target value = effect := by
  simp only [verbEffect, bind_eq_ok_iff, pure_eq_ok_iff]

theorem length_iff : s.verbEffect .length ctx = .ok effect ↔
    ∃ target, s.target .length 1 = .ok target ∧
      ∃ value, s.value .length 2 ctx.bindings = .ok value ∧
        ∃ n, sizeOf? value = some n ∧ .store target (Bindings.number n) = effect := by
  simp only [verbEffect, bind_eq_ok_iff]
  refine exists_congr fun target => and_congr_right fun _ => exists_congr fun value =>
    and_congr_right fun _ => ?_
  cases sizeOf? value <;> simp [pure_eq_ok_iff, throw_ne_ok]

theorem interpolate_iff : s.verbEffect .interpolate ctx = .ok effect ↔
    ∃ target, s.target .interpolate 1 = .ok target ∧
      ∃ template, s.rawString .interpolate 2 = .ok template ∧
        ∃ text, Template.substitute template ctx.bindings = .ok text ∧
          .store target (.string text) = effect := by
  simp only [verbEffect, bind_eq_ok_iff, pure_eq_ok_iff]

theorem append_iff : s.verbEffect .append ctx = .ok effect ↔
    ∃ target, s.target .append 1 = .ok target ∧
      ∃ items, s.array .append 1 ctx.bindings = .ok items ∧
        ∃ item, s.value .append 2 ctx.bindings = .ok item ∧ .push target item = effect := by
  simp only [verbEffect, bind_eq_ok_iff, pure_eq_ok_iff]

theorem unique_iff : s.verbEffect .unique ctx = .ok effect ↔
    ∃ target, s.target .unique 1 = .ok target ∧
      ∃ items, s.array .unique 2 ctx.bindings = .ok items ∧
        .store target (.array (distinct items)) = effect := by
  simp only [verbEffect, bind_eq_ok_iff, pure_eq_ok_iff]

theorem split_iff : s.verbEffect .split ctx = .ok effect ↔
    ∃ target, s.target .split 1 = .ok target ∧
      ∃ text, s.string .split 2 ctx.bindings = .ok text ∧
        ∃ pattern, s.string .split 3 ctx.bindings = .ok pattern ∧
          ∃ re, compilePattern .split pattern = .ok re ∧
            .store target
              (.array ((splitText re text.toList).map fun p => .string (.ofList p))) = effect := by
  simp only [verbEffect, bind_eq_ok_iff, pure_eq_ok_iff]

theorem join_iff : s.verbEffect .join ctx = .ok effect ↔
    ∃ target, s.target .join 1 = .ok target ∧
      ∃ items, s.array .join 2 ctx.bindings = .ok items ∧
        ∃ conjunction, s.string .join 3 ctx.bindings = .ok conjunction ∧
          .store target (.string (conjunction.intercalate (items.map Value.splice))) = effect := by
  simp only [verbEffect, bind_eq_ok_iff, pure_eq_ok_iff]

theorem foldCase_iff {verb : Verb} {fold : String → String} :
    s.foldCase verb fold bindings = .ok effect ↔
      ∃ target, s.target verb 1 = .ok target ∧
        ∃ value, s.value verb 2 bindings = .ok value ∧
          ∃ folded, foldValue? fold value = some folded ∧ .store target folded = effect := by
  simp only [foldCase, bind_eq_ok_iff]
  refine exists_congr fun target => and_congr_right fun _ => exists_congr fun value =>
    and_congr_right fun _ => ?_
  cases value with
  | array items =>
    rcases hf : foldItems fold items with item | folded <;>
      simp [foldValue?, hf, pure_eq_ok_iff, throw_ne_ok, Except.toOption]
  | _ => simp [foldValue?, pure_eq_ok_iff, throw_ne_ok]

theorem membership_iff {verb : Verb} {negated : Bool} :
    s.membership verb negated bindings = .ok effect ↔
      ∃ member, s.value verb 1 bindings = .ok member ∧
        ∃ collection, s.value verb 2 bindings = .ok collection ∧
          ∃ found, contains? collection member = some found ∧
            .test (found != negated) = effect := by
  simp only [membership, bind_eq_ok_iff]
  refine exists_congr fun member => and_congr_right fun _ => exists_congr fun collection =>
    and_congr_right fun _ => ?_
  -- what contains something is of a kind that is checked first
  have hk : ∀ found, contains? collection member = some found →
      collectionKinds.contains collection.kind = true := by
    intro found h
    cases collection <;> simp_all [contains?, collectionKinds, Value.kind]
  rcases hc : contains? collection member with _ | found
  · split <;> simp [throw_ne_ok]
  · simp only [hk found hc, if_true, pure_eq_ok_iff, Option.some.injEq, exists_eq_left']

theorem compare_iff : s.verbEffect .compare ctx = .ok effect ↔
    ∃ left, s.value .compare 1 ctx.bindings = .ok left ∧
      ∃ operator, s.string .compare 2 ctx.bindings = .ok operator ∧
        ∃ right, s.value .compare 3 ctx.bindings = .ok right ∧ left.kind = right.kind ∧
          ∃ result, compareValues left operator right = .ok result ∧ .test result = effect := by
  simp only [verbEffect, bind_eq_ok_iff]
  refine exists_congr fun left => and_congr_right fun _ => exists_congr fun operator =>
    and_congr_right fun _ => exists_congr fun right => and_congr_right fun _ => ?_
  split
  · next hk => simp only [hk, bind_eq_ok_iff, pure_eq_ok_iff, true_and]
  · next hk => simp only [hk, throw_ne_ok, false_and]

theorem regexp_iff : s.verbEffect .regexp ctx = .ok effect ↔
    ∃ text, s.string .regexp 1 ctx.bindings = .ok text ∧
      ∃ pattern, s.string .regexp 2 ctx.bindings = .ok pattern ∧
        ∃ re, compilePattern .regexp pattern = .ok re ∧
          searchEffect re text.toList = effect := by
  simp only [verbEffect, bind_eq_ok_iff, pure_eq_ok_iff]

theorem regexpReplace_iff : s.verbEffect .regexpReplace ctx = .ok effect ↔
    ∃ text, s.string .regexpReplace 2 ctx.bindings = .ok text ∧
      ∃ pattern, s.string .regexpReplace 3 ctx.bindings = .ok pattern ∧
        ∃ replacement, s.string .regexpReplace 4 ctx.bindings = .ok replacement ∧
          ∃ re, compilePattern .regexpReplace pattern = .ok re ∧
            ∃ target, s.target .regexpReplace 1 = .ok target ∧
              .store target
                (.string (.ofList (re.replaceAll text.toList replacement.toList))) = effect := by
  simp only [verbEffect, bind_eq_ok_iff, pure_eq_ok_iff]

theorem exit_iff : s.verbEffect .exit ctx = .ok effect ↔
    ∃ status, s.string .exit 1 ctx.bindings = .ok status ∧
      ∃ outcome, Outcome.ofStatus? status = some outcome ∧
        ∃ c, s.criteria .exit 2 ctx.bindings = .ok c ∧
          .flow (if c.holds ctx.success then outcome else .statementContinue) = effect := by
  simp only [verbEffect, bind_eq_ok_iff]
  refine exists_congr fun status => and_congr_right fun _ => ?_
  cases Outcome.ofStatus? status with
  | none => simp [throw_ne_ok]
  | some outcome =>
    simp only [bind_eq_ok_iff, pure_eq_ok_iff, Option.some.injEq, exists_eq_left']

theorem skip_iff : s.verbEffect .skip ctx = .ok effect ↔
    ∃ c, s.criteria .skip 1 ctx.bindings = .ok c ∧
      .flow (if c.holds ctx.success then .blockContinue else .statementContinue) = effect := by
  simp only [verbEffect, bind_eq_ok_iff, pure_eq_ok_iff]

theorem target?_searchEffect (re : Regex) (text : List Char) :
    (searchEffect re text).target? = none := by
  unfold searchEffect
  split <;> rfl

theorem target_of_verbEffect {verb : Verb} {r : Reference}
    (h : s.verbEffect verb ctx = .ok effect) (hr : effect.target? = some r) :
    s.target verb 1 = .ok r := by
  cases verb with
  | set =>
    obtain ⟨target, ht, _, _, rfl⟩ := set_iff.1 h
    rwa [← Option.some.inj hr]
  | length =>
    obtain ⟨target, ht, _, _, _, _, rfl⟩ := length_iff.1 h
    rwa [← Option.some.inj hr]
  | interpolate =>
    obtain ⟨target, ht, _, _, _, _, rfl⟩ := interpolate_iff.1 h
    rwa [← Option.some.inj hr]
  | append =>
    obtain ⟨target, ht, _, _, _, _, rfl⟩ := append_iff.1 h
    rwa [← Option.some.inj hr]
  | unique =>
    obtain ⟨target, ht, _, _, rfl⟩ := unique_iff.1 h
    rwa [← Option.some.inj hr]
  | split =>
    obtain ⟨target, ht, _, _, _, _, _, _, rfl⟩ := split_iff.1 h
    rwa [← Option.some.inj hr]
  | join =>
    obtain ⟨target, ht, _, _, _, _, rfl⟩ := join_iff.1 h
    rwa [← Option.some.inj hr]
  | lower | upper =>
    obtain ⟨target, ht, _, _, _, _, rfl⟩ := foldCase_iff.1 h
    rwa [← Option.some.inj hr]
  | regexpReplace =>
    obtain ⟨_, _, _, _, _, _, _, _, target, ht, rfl⟩ := regexpReplace_iff.1 h
    rwa [← Option.some.inj hr]
  | member | notMember =>
    obtain ⟨_, _, _, _, _, _, rfl⟩ := membership_iff.1 h
    cases hr
  | compare =>
    obtain ⟨_, _, _, _, _, _, _, _, _, rfl⟩ := compare_iff.1 h
    cases hr
  | regexp =>
    obtain ⟨_, _, _, _, _, _, rfl⟩ := regexp_iff.1 h
    rw [target?_searchEffect] at hr
    cases hr
  | exit =>
    obtain ⟨_, _, _, _, _, _, rfl⟩ := exit_iff.1 h
    cases hr
  | skip =>
    obtain ⟨_, _, rfl⟩ := skip_iff.1 h
    cases hr

end Statement
end ClaimRules
