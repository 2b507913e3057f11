import ClaimRules.Proofs.Operands

/-! When statements succeed. Each verb has a row of requirements on its operands; a statement can be
executed exactly if it names a verb whose operands are all there and whose row they meet. -/

namespace ClaimRules

def Verb.operandCount : Verb → Nat
  | .skip => 1
  | .set | .length | .interpolate | .append | .unique | .lower | .upper | .member | .notMember
  | .regexp | .exit => 2
  | .split | .join | .compare => 3
  | .regexpReplace => 4

namespace Statement

variable {s : Statement} {verb : Verb} {ctx : Context} {bindings : Bindings} {effect : Effect}

/-- The row of a verb: what its operands have to be. -/
def Meets (s : Statement) (bindings : Bindings) : Verb → Prop
  | .set => s.HasTarget bindings ∧ ∃ value, s.Yields bindings 2 value
  | .length => s.HasTarget bindings ∧ ∃ value, s.Yields bindings 2 value ∧ value.IsCollection
  | .interpolate =>
    s.HasTarget bindings ∧ ∃ text, s.items[2]? = some (.string text) ∧
      ∀ r ∈ Template.references text, ∃ value, r.resolve bindings = .ok value
  | .append =>
    s.HasTarget bindings ∧ (∃ items, s.Yields bindings 1 (.array items)) ∧
      ∃ value, s.Yields bindings 2 value
  | .unique => s.HasTarget bindings ∧ ∃ items, s.Yields bindings 2 (.array items)
  | .split =>
    s.HasTarget bindings ∧ (∃ text, s.Yields bindings 2 (.string text)) ∧
      ∃ pattern, s.Yields bindings 3 (.string pattern) ∧ Regex.IsPattern pattern
  | .join =>
    s.HasTarget bindings ∧ (∃ items, s.Yields bindings 2 (.array items)) ∧
      ∃ conjunction, s.Yields bindings 3 (.string conjunction)
  | .lower | .upper =>
    s.HasTarget bindings ∧ ∃ value, s.Yields bindings 2 value ∧ value.IsFoldable
  | .regexpReplace =>
    s.HasTarget bindings ∧ (∃ text, s.Yields bindings 2 (.string text)) ∧
      (∃ pattern, s.Yields bindings 3 (.string pattern) ∧ Regex.IsPattern pattern) ∧
        ∃ replacement, s.Yields bindings 4 (.string replacement)
  | .member | .notMember =>
    ∃ member collection, s.Yields bindings 1 member ∧ s.Yields bindings 2 collection ∧
      collection.MayHold member
  | .compare =>
    ∃ left operator right, s.Yields bindings 1 left ∧ s.Yields bindings 2 (.string operator) ∧
      s.Yields bindings 3 right ∧ left.Comparable operator right
  | .regexp =>
    (∃ text, s.Yields bindings 1 (.string text)) ∧
      ∃ pattern, s.Yields bindings 2 (.string pattern) ∧ Regex.IsPattern pattern
  | .exit =>
    (∃ status, s.Yields bindings 1 (.string status) ∧
        Unicode.lowerText status ∈ ["rule_succeeds", "rule_fails"]) ∧
      ∃ name, s.Yields bindings 2 (.string name) ∧
        ∃ c : Criteria, Unicode.lowerText name = c.name
  | .skip =>
    ∃ name, s.Yields bindings 1 (.string name) ∧ ∃ c : Criteria, Unicode.lowerText name = c.name

theorem meets_of_verbEffect {writes : List (String × Value)}
    (h : s.verbEffect verb ctx = .ok effect) (hw : effect.writes ctx.bindings = .ok writes) :
    s.Meets ctx.bindings verb := by
  -- an effect that stores something shows that its target takes a value
  have htarget {r : Reference} {value : Value} (ht : s.target verb 1 = .ok r)
      (he : effect = .store r value) : s.HasTarget ctx.bindings :=
    ⟨r, target_eq_ok_iff.1 ht, Effect.writes_store_iff.1 ⟨writes, he ▸ hw⟩⟩
  cases verb with
  | set =>
    obtain ⟨r, ht, value, hv, he⟩ := set_iff.1 h
    exact ⟨htarget ht he.symm, value, value_eq_ok_iff.1 hv⟩
  | length =>
    obtain ⟨r, ht, value, hv, n, hn, he⟩ := length_iff.1 h
    exact ⟨htarget ht he.symm, value, value_eq_ok_iff.1 hv, sizeOf?_isSome_iff.1 ⟨n, hn⟩⟩
  | interpolate =>
    obtain ⟨r, ht, template, hr, text, hs, he⟩ := interpolate_iff.1 h
    exact ⟨htarget ht he.symm, template, rawString_eq_ok_iff.1 hr,
      Template.substitute_isOk_iff.1 ⟨text, hs⟩⟩
  | append =>
    obtain ⟨r, ht, items, ha, item, hv, rfl⟩ := append_iff.1 h
    obtain ⟨items', hr⟩ := Effect.writes_push_iff.1 ⟨writes, hw⟩
    exact ⟨⟨r, target_eq_ok_iff.1 ht, .inr ⟨_, hr⟩⟩, ⟨items, array_eq_ok_iff.1 ha⟩, item,
      value_eq_ok_iff.1 hv⟩
  | unique =>
    obtain ⟨r, ht, items, ha, he⟩ := unique_iff.1 h
    exact ⟨htarget ht he.symm, items, array_eq_ok_iff.1 ha⟩
  | split =>
    obtain ⟨r, ht, text, hs, pattern, hp, re, hre, he⟩ := split_iff.1 h
    exact ⟨htarget ht he.symm, ⟨text, string_eq_ok_iff.1 hs⟩, pattern, string_eq_ok_iff.1 hp,
      compilePattern_isOk_iff.1 ⟨re, hre⟩⟩
  | join =>
    obtain ⟨r, ht, items, ha, conjunction, hs, he⟩ := join_iff.1 h
    exact ⟨htarget ht he.symm, ⟨items, array_eq_ok_iff.1 ha⟩, conjunction, string_eq_ok_iff.1 hs⟩
  | lower | upper =>
    obtain ⟨r, ht, value, hv, folded, hf, he⟩ := foldCase_iff.1 h
    exact ⟨htarget ht he.symm, value, value_eq_ok_iff.1 hv, foldValue?_isSome_iff.1 ⟨folded, hf⟩⟩
  | regexpReplace =>
    obtain ⟨text, hs, pattern, hp, replacement, hr, re, hre, r, ht, he⟩ := regexpReplace_iff.1 h
    exact ⟨htarget ht he.symm, ⟨text, string_eq_ok_iff.1 hs⟩,
      ⟨pattern, string_eq_ok_iff.1 hp, compilePattern_isOk_iff.1 ⟨re, hre⟩⟩, replacement,
      string_eq_ok_iff.1 hr⟩
  | member | notMember =>
    obtain ⟨member, hm, collection, hc, found, hf, -⟩ := membership_iff.1 h
    exact ⟨member, collection, value_eq_ok_iff.1 hm, value_eq_ok_iff.1 hc,
      contains?_isSome_iff.1 ⟨found, hf⟩⟩
  | compare =>
    obtain ⟨left, hl, operator, ho, right, hr, hk, result, hres, -⟩ := compare_iff.1 h
    exact ⟨left, operator, right, value_eq_ok_iff.1 hl, string_eq_ok_iff.1 ho,
      value_eq_ok_iff.1 hr, (compareValues_isOk_iff hk).1 ⟨result, hres⟩⟩
  | regexp =>
    obtain ⟨text, hs, pattern, hp, re, hre, -⟩ := regexp_iff.1 h
    exact ⟨⟨text, string_eq_ok_iff.1 hs⟩, pattern, string_eq_ok_iff.1 hp,
      compilePattern_isOk_iff.1 ⟨re, hre⟩⟩
  | exit =>
    obtain ⟨status, hs, outcome, ho, c, hc, -⟩ := exit_iff.1 h
    exact ⟨⟨status, string_eq_ok_iff.1 hs, Outcome.ofStatus?_isSome_iff.1 ⟨outcome, ho⟩⟩,
      criteria_isOk_iff.1 ⟨c, hc⟩⟩
  | skip =>
    obtain ⟨c, hc, -⟩ := skip_iff.1 h
    exact criteria_isOk_iff.1 ⟨c, hc⟩

theorem exists_writes_of_meets (h : s.Meets ctx.bindings verb) :
    ∃ effect writes, s.verbEffect verb ctx = .ok effect ∧
      effect.writes ctx.bindings = .ok writes := by
  have hstore {r : Reference} {value : Value} (hr : r.Assignable ctx.bindings)
      (he : s.verbEffect verb ctx = .ok (.store r value)) :
      ∃ effect writes, s.verbEffect verb ctx = .ok effect ∧
        effect.writes ctx.bindings = .ok writes := by
    obtain ⟨writes, hw⟩ := Effect.writes_store_iff.2 hr
    exact ⟨_, writes, he, hw⟩
  cases verb with
  | set =>
    obtain ⟨⟨r, ht, hr⟩, value, hv⟩ := h
    exact hstore hr (set_iff.2 ⟨r, target_eq_ok_iff.2 ht, value, value_eq_ok_iff.2 hv, rfl⟩)
  | length =>
    obtain ⟨⟨r, ht, hr⟩, value, hv, hn⟩ := h
    obtain ⟨n, hn⟩ := sizeOf?_isSome_iff.2 hn
    exact hstore hr
      (length_iff.2 ⟨r, target_eq_ok_iff.2 ht, value, value_eq_ok_iff.2 hv, n, hn, rfl⟩)
  | interpolate =>
    obtain ⟨⟨r, ht, hr⟩, template, hi, hs⟩ := h
    obtain ⟨text, hs⟩ := Template.substitute_isOk_iff.2 hs
    exact hstore hr
      (interpolate_iff.2 ⟨r, target_eq_ok_iff.2 ht, template, rawString_eq_ok_iff.2 hi, text, hs, rfl⟩)
  | append =>
    obtain ⟨⟨r, ht, -⟩, ⟨items, ha⟩, item, hv⟩ := h
    -- the array that is asked for is the value of the target
    have hr : r.resolve ctx.bindings = .ok (.array items) := (yields_reference_iff ht).1 ha
    obtain ⟨writes, hw⟩ := Effect.writes_push_iff.2 ⟨items, hr⟩
    exact ⟨_, writes, append_iff.2 ⟨r, target_eq_ok_iff.2 ht, items, array_eq_ok_iff.2 ha, item,
      value_eq_ok_iff.2 hv, rfl⟩, hw⟩
  | unique =>
    obtain ⟨⟨r, ht, hr⟩, items, ha⟩ := h
    exact hstore hr (unique_iff.2 ⟨r, target_eq_ok_iff.2 ht, items, array_eq_ok_iff.2 ha, rfl⟩)
  | split =>
    obtain ⟨⟨r, ht, hr⟩, ⟨text, hs⟩, pattern, hp, hre⟩ := h
    obtain ⟨re, hre⟩ := compilePattern_isOk_iff.2 hre
    exact hstore hr (split_iff.2 ⟨r, target_eq_ok_iff.2 ht, text, string_eq_ok_iff.2 hs, pattern,
      string_eq_ok_iff.2 hp, re, hre, rfl⟩)
  | join =>
    obtain ⟨⟨r, ht, hr⟩, ⟨items, ha⟩, conjunction, hs⟩ := h
    exact hstore hr (join_iff.2 ⟨r, target_eq_ok_iff.2 ht, items, array_eq_ok_iff.2 ha, conjunction,
      string_eq_ok_iff.2 hs, rfl⟩)
  | lower | upper =>
    obtain ⟨⟨r, ht, hr⟩, value, hv, hf⟩ := h
    obtain ⟨folded, hf⟩ := foldValue?_isSome_iff.2 hf
    exact hstore hr
      (foldCase_iff.2 ⟨r, target_eq_ok_iff.2 ht, value, value_eq_ok_iff.2 hv, folded, hf, rfl⟩)
  | regexpReplace =>
    obtain ⟨⟨r, ht, hr⟩, ⟨text, hs⟩, ⟨pattern, hp, hre⟩, replacement, hrep⟩ := h
    obtain ⟨re, hre⟩ := compilePattern_isOk_iff.2 hre
    exact hstore hr (regexpReplace_iff.2 ⟨text, string_eq_ok_iff.2 hs, pattern,
      string_eq_ok_iff.2 hp, replacement, string_eq_ok_iff.2 hrep, re, hre, r,
      target_eq_ok_iff.2 ht, rfl⟩)
  | member | notMember =>
    obtain ⟨member, collection, hm, hc, hf⟩ := h
    obtain ⟨found, hf⟩ := contains?_isSome_iff.2 hf
    exact ⟨_, [], membership_iff.2 ⟨member, value_eq_ok_iff.2 hm, collection,
      value_eq_ok_iff.2 hc, found, hf, rfl⟩, rfl⟩
  | compare =>
    obtain ⟨left, operator, right, hl, ho, hr, hc⟩ := h
    obtain ⟨result, hres⟩ := (compareValues_isOk_iff hc.1).2 hc
    exact ⟨_, [], compare_iff.2 ⟨left, value_eq_ok_iff.2 hl, operator, string_eq_ok_iff.2 ho, right,
      value_eq_ok_iff.2 hr, hc.1, result, hres, rfl⟩, rfl⟩
  | regexp =>
    obtain ⟨⟨text, hs⟩, pattern, hp, hre⟩ := h
    obtain ⟨re, hre⟩ := compilePattern_isOk_iff.2 hre
    have he := regexp_iff.2 ⟨text, string_eq_ok_iff.2 hs, pattern, string_eq_ok_iff.2 hp, re, hre,
      rfl⟩
    unfold searchEffect at he
    split at he <;> exact ⟨_, _, he, rfl⟩
  | exit =>
    obtain ⟨⟨status, hs, ho⟩, hc⟩ := h
    obtain ⟨outcome, ho⟩ := Outcome.ofStatus?_isSome_iff.2 ho
    obtain ⟨c, hc⟩ := criteria_isOk_iff.2 hc
    exact ⟨_, [], exit_iff.2 ⟨status, string_eq_ok_iff.2 hs, outcome, ho, c, hc, rfl⟩, rfl⟩
  | skip =>
    obtain ⟨c, hc⟩ := criteria_isOk_iff.2 h
    exact ⟨_, [], skip_iff.2 ⟨c, hc, rfl⟩, rfl⟩

theorem lt_length_of_yields {index : Nat} {value : Value} (h : s.Yields bindings index value) :
    index < s.items.length := by
  obtain ⟨operand, ho, -⟩ := h
  obtain ⟨item, hi, -⟩ := Option.map_eq_some_iff.1 ho
  exact (List.getElem?_eq_some_iff.1 hi).1

theorem operandCount_lt_of_meets (h : s.Meets bindings verb) :
    verb.operandCount < s.items.length := by
  cases verb with
  | set =>
    obtain ⟨-, value, hv⟩ := h
    exact lt_length_of_yields hv
  | length | lower | upper =>
    obtain ⟨-, value, hv, -⟩ := h
    exact lt_length_of_yields hv
  | interpolate =>
    obtain ⟨-, text, hi, -⟩ := h
    exact (List.getElem?_eq_some_iff.1 hi).1
  | append =>
    obtain ⟨-, -, value, hv⟩ := h
    exact lt_length_of_yields hv
  | unique =>
    obtain ⟨-, items, ha⟩ := h
    exact lt_length_of_yields ha
  | split =>
    obtain ⟨-, -, pattern, hp, -⟩ := h
    exact lt_length_of_yields hp
  | join =>
    obtain ⟨-, -, conjunction, hs⟩ := h
    exact lt_length_of_yields hs
  | regexpReplace =>
    obtain ⟨-, -, -, replacement, hr⟩ := h
    exact lt_length_of_yields hr
  | member | notMember =>
    obtain ⟨member, collection, -, hc, -⟩ := h
    exact lt_length_of_yields hc
  | compare =>
    obtain ⟨left, operator, right, -, -, hr, -⟩ := h
    exact lt_length_of_yields hr
  | regexp =>
    obtain ⟨-, pattern, hp, -⟩ := h
    exact lt_length_of_yields hp
  | exit =>
    obtain ⟨-, name, hn, -⟩ := h
    exact lt_length_of_yields hn
  | skip =>
    obtain ⟨name, hn, -⟩ := h
    exact lt_length_of_yields hn

def extend (s : Statement) (extra : List Value) : Statement := ⟨s.items ++ extra⟩

theorem getElem?_extend {index : Nat} {item : Value} (extra : List Value)
    (h : s.items[index]? = some item) : (s.extend extra).items[index]? = some item := by
  have hl : index < s.items.length := (List.getElem?_eq_some_iff.1 h).1
  rw [extend, List.getElem?_append_left hl, h]

theorem operand?_extend {index : Nat} {operand : Operand} (extra : List Value)
    (h : s.operand? index = some operand) : (s.extend extra).operand? index = some operand := by
  obtain ⟨item, hi, rfl⟩ := Option.map_eq_some_iff.1 h
  rw [operand?, getElem?_extend extra hi, Option.map_some]

theorem target_extend {r : Reference} (extra : List Value) (h : s.target verb 1 = .ok r) :
    (s.extend extra).target verb 1 = .ok r :=
  target_eq_ok_iff.2 (operand?_extend extra (target_eq_ok_iff.1 h))

theorem yields_extend {index : Nat} {value : Value} (extra : List Value)
    (h : s.Yields bindings index value) : (s.extend extra).Yields bindings index value := by
  obtain ⟨operand, ho, hv⟩ := h
  exact ⟨operand, operand?_extend extra ho, hv⟩

theorem value_extend {index : Nat} {value : Value} (extra : List Value)
    (h : s.value verb index bindings = .ok value) :
    (s.extend extra).value verb index bindings = .ok value :=
  value_eq_ok_iff.2 (yields_extend extra (value_eq_ok_iff.1 h))

theorem string_extend {index : Nat} {text : String} (extra : List Value)
    (h : s.string verb index bindings = .ok text) :
    (s.extend extra).string verb index bindings = .ok text :=
  string_eq_ok_iff.2 (yields_extend extra (string_eq_ok_iff.1 h))

theorem array_extend {index : Nat} {items : List Value} (extra : List Value)
    (h : s.array verb index bindings = .ok items) :
    (s.extend extra).array verb index bindings = .ok items :=
  array_eq_ok_iff.2 (yields_extend extra (array_eq_ok_iff.1 h))

theorem rawString_extend {index : Nat} {text : String} (extra : List Value)
    (h : s.rawString verb index = .ok text) : (s.extend extra).rawString verb index = .ok text :=
  rawString_eq_ok_iff.2 (getElem?_extend extra (rawString_eq_ok_iff.1 h))

theorem criteria_extend {index : Nat} {c : Criteria} (extra : List Value)
    (h : s.criteria verb index bindings = .ok c) :
    (s.extend extra).criteria verb index bindings = .ok c := by
  obtain ⟨text, hs, hc⟩ := bind_eq_ok_iff.1 h
  refine bind_eq_ok_iff.2 ⟨text, string_extend extra hs, ?_⟩
  rcases hn : Criteria.ofName? text with _ | c'
  · simp only [hn, throw_ne_ok] at hc
  · simpa only [hn] using hc

theorem verbEffect_extend (extra : List Value) (h : s.verbEffect verb ctx = .ok effect) :
    (s.extend extra).verbEffect verb ctx = .ok effect := by
  cases verb with
  | set =>
    obtain ⟨r, ht, value, hv, he⟩ := set_iff.1 h
    exact set_iff.2 ⟨r, target_extend extra ht, value, value_extend extra hv, he⟩
  | length =>
    obtain ⟨r, ht, value, hv, he⟩ := length_iff.1 h
    exact length_iff.2 ⟨r, target_extend extra ht, value, value_extend extra hv, he⟩
  | interpolate =>
    obtain ⟨r, ht, template, hi, he⟩ := interpolate_iff.1 h
    exact interpolate_iff.2 ⟨r, target_extend extra ht, template, rawString_extend extra hi, he⟩
  | append =>
    obtain ⟨r, ht, items, ha, item, hv, he⟩ := append_iff.1 h
    exact append_iff.2 ⟨r, target_extend extra ht, items, array_extend extra ha, item,
      value_extend extra hv, he⟩
  | unique =>
    obtain ⟨r, ht, items, ha, he⟩ := unique_iff.1 h
    exact unique_iff.2 ⟨r, target_extend extra ht, items, array_extend extra ha, he⟩
  | split =>
    obtain ⟨r, ht, text, hs, pattern, hp, he⟩ := split_iff.1 h
    exact split_iff.2 ⟨r, target_extend extra ht, text, string_extend extra hs, pattern,
      string_extend extra hp, he⟩
  | join =>
    obtain ⟨r, ht, items, ha, conjunction, hs, he⟩ := join_iff.1 h
    exact join_iff.2 ⟨r, target_extend extra ht, items, array_extend extra ha, conjunction,
      string_extend extra hs, he⟩
  | lower | upper =>
    obtain ⟨r, ht, value, hv, he⟩ := foldCase_iff.1 h
    exact foldCase_iff.2 ⟨r, target_extend extra ht, value, value_extend extra hv, he⟩
  | regexpReplace =>
    obtain ⟨text, hs, pattern, hp, replacement, hr, re, hre, r, ht, he⟩ := regexpReplace_iff.1 h
    exact regexpReplace_iff.2 ⟨text, string_extend extra hs, pattern, string_extend extra hp,
      replacement, string_extend extra hr, re, hre, r, target_extend extra ht, he⟩
  | member | notMember =>
    obtain ⟨member, hm, collection, hc, he⟩ := membership_iff.1 h
    exact membership_iff.2 ⟨member, value_extend extra hm, collection, value_extend extra hc, he⟩
  | compare =>
    obtain ⟨left, hl, operator, ho, right, hr, he⟩ := compare_iff.1 h
    exact compare_iff.2 ⟨left, value_extend extra hl, operator, string_extend extra ho, right,
      value_extend extra hr, he⟩
  | regexp =>
    obtain ⟨text, hs, pattern, hp, he⟩ := regexp_iff.1 h
    exact regexp_iff.2 ⟨text, string_extend extra hs, pattern, string_extend extra hp, he⟩
  | exit =>
    obtain ⟨status, hs, outcome, ho, c, hc, he⟩ := exit_iff.1 h
    exact exit_iff.2 ⟨status, string_extend extra hs, outcome, ho, c, criteria_extend extra hc, he⟩
  | skip =>
    obtain ⟨c, hc, he⟩ := skip_iff.1 h
    exact skip_iff.2 ⟨c, criteria_extend extra hc, he⟩

theorem verb_extend (extra : List Value) (h : s.verb = .ok verb) :
    (s.extend extra).verb = .ok verb := by
  obtain ⟨name, hi, hn⟩ := verb_eq_ok_iff.1 h
  exact verb_eq_ok_iff.2 ⟨name, getElem?_extend extra hi, hn⟩

theorem execute_fst_isOk_iff :
    (∃ outcome, (s.execute ctx).1 = .ok outcome) ↔
      ∃ verb, s.verb = .ok verb ∧ s.Meets ctx.bindings verb := by
  constructor
  · rintro ⟨outcome, h⟩
    obtain ⟨effect, writes, he, hw, -⟩ := execute_eq_ok_iff.1 (Prod.ext h rfl)
    obtain ⟨verb, hv, he⟩ := effect_eq_ok_iff.1 he
    exact ⟨verb, hv, meets_of_verbEffect he hw⟩
  · rintro ⟨verb, hv, hm⟩
    obtain ⟨effect, writes, he, hw⟩ := exists_writes_of_meets hm
    have hex := execute_eq_ok_iff.2 ⟨effect, writes, effect_eq_ok_iff.2 ⟨verb, hv, he⟩, hw, rfl, rfl⟩
    exact ⟨effect.outcome, congrArg Prod.fst hex⟩

/-- A statement succeeds exactly if its first item names a verb in any case, all operands of the verb
are there and its row holds. Items beyond the operands make no difference to what it does. -/
theorem execute_succeeds_iff (s : Statement) (ctx : Context) :
    ((∃ outcome, (s.execute ctx).1 = .ok outcome) ↔
      ∃ name verb, s.items[0]? = some (.string name) ∧ Unicode.lowerText name = verb.name ∧
        verb.operandCount < s.items.length ∧ s.Meets ctx.bindings verb) ∧
    ∀ outcome, (s.execute ctx).1 = .ok outcome →
      ∀ extra, (s.extend extra).execute ctx = s.execute ctx := by
  constructor
  · rw [execute_fst_isOk_iff]
    constructor
    · rintro ⟨verb, hv, hm⟩
      obtain ⟨name, hi, hn⟩ := verb_eq_ok_iff.1 hv
      exact ⟨name, verb, hi, hn, operandCount_lt_of_meets hm, hm⟩
    · rintro ⟨name, verb, hi, hn, -, hm⟩
      exact ⟨verb, verb_eq_ok_iff.2 ⟨name, hi, hn⟩, hm⟩
  · intro outcome h extra
    obtain ⟨effect, writes, he, -⟩ := execute_eq_ok_iff.1 (Prod.ext h rfl)
    obtain ⟨verb, hv, hve⟩ := effect_eq_ok_iff.1 he
    have hext : (s.extend extra).effect ctx = .ok effect :=
      effect_eq_ok_iff.2 ⟨verb, verb_extend extra hv, verbEffect_extend extra hve⟩
    simp only [execute, he, hext]

theorem execute_succeeds_iff_append :
    let s : Statement := ⟨[.string "APPEND", .string " $\x7bxs[0]\x7d ", .string "$xs"]⟩
    let ctx : Context := ⟨[("xs", .array [.array []])], false⟩
    (∃ outcome, (s.execute ctx).1 = .ok outcome) ∧
      (s.extend [.string "$y"]).execute ctx = s.execute ctx := by
  intro s ctx
  have ht : s.operand? 1 = some (.reference ⟨"xs", some "0"⟩) := rfl
  have hx : s.Yields ctx.bindings 2 (.array [.array []]) := ⟨.reference ⟨"xs", none⟩, rfl, rfl⟩
  have hm : s.Meets ctx.bindings .append :=
    ⟨⟨_, ht, .inr ⟨.array [], rfl⟩⟩, ⟨[], _, ht, rfl⟩, _, hx⟩
  have hok : ∃ outcome, (s.execute ctx).1 = .ok outcome :=
    (execute_succeeds_iff s ctx).1.2 ⟨"APPEND", .append, rfl, rfl, by decide, hm⟩
  obtain ⟨outcome, ho⟩ := hok
  exact ⟨⟨outcome, ho⟩, (execute_succeeds_iff s ctx).2 outcome ho _⟩

end Statement
end ClaimRules
