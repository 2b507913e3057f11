import ClaimRules.Proofs.Lockstep

/-! Evaluations under different formats. The names of rules and statements are made from the bindings,
and that may fail. What an evaluation answers depends on it in one place only: where a rule without a
mapping of its own looks one up. -/

namespace ClaimRules

def Error.SameKind (d e : Error) : Prop := d.kind = e.kind

section Comparison

variable {α β : Type} {E : Error → Error → Prop}

theorem Alike.symm {x y : Except Error α} (h : Alike Error.SameKind Eq x y) :
    Alike Error.SameKind Eq y x := by
  cases h with
  | ok h => exact .ok h.symm
  | error h => exact .error h.symm

theorem Alike.map_some_iff {x y : Except Error α} :
    Alike E Eq (x.map some) (y.map some) ↔ Alike E Eq x y := by
  constructor
  · intro h
    rcases x with d | a <;> rcases y with e | b <;> cases h
    · exact .error (by assumption)
    · next h => exact .ok (Option.some.inj h)
  · rintro (h | h)
    · exact .ok (congrArg some h)
    · exact .error h

theorem mapItems_alike {f g : β → Except Error α} {items : List β}
    (h : ∀ item ∈ items, Alike E Eq (f item) (g item)) :
    Alike E Eq (mapItems f items) (mapItems g items) := by
  induction items with
  | nil => exact .ok rfl
  | cons item rest ih =>
    have hrest := ih fun item hi => h item (List.mem_cons_of_mem _ hi)
    unfold mapItems
    obtain ⟨a, _, hf, hg, rfl⟩ | ⟨d, e, hf, hg, he⟩ := (h item List.mem_cons_self).elim
    · obtain ⟨as, _, hfs, hgs, rfl⟩ | ⟨d, e, hfs, hgs, he⟩ := hrest.elim
      · simp only [hf, hg, hfs, hgs]
        exact .ok rfl
      · simp only [hf, hg, hfs, hgs]
        exact .error he
    · simp only [hf, hg]
      exact .error he

end Comparison

namespace Reference

theorem position_error {name index : String} {size : Nat} {e : Error}
    (h : position name index size = .error e) : ∃ fault, e = .lookup fault := by
  unfold position at h
  split at h
  · cases h
    exact ⟨_, rfl⟩
  · split at h
    · cases h
    · cases h
      exact ⟨_, rfl⟩

theorem resolve_error {r : Reference} {bindings : Bindings} {e : Error}
    (h : r.resolve bindings = .error e) : ∃ fault, e = .lookup fault := by
  unfold resolve at h
  split at h
  · cases h
    exact ⟨_, rfl⟩
  · split at h
    · cases h
    · split at h
      · split at h
        · cases h
        · next hp =>
          cases h
          exact position_error hp
      · split at h
        · cases h
        · cases h
          exact ⟨_, rfl⟩
      · cases h
        exact ⟨_, rfl⟩

end Reference

namespace Template

theorem fillPieces_error {ε : Type} {find : Reference → Except ε String} {pieces : List Piece}
    {e : ε} (h : fillPieces find pieces = .error e) : ∃ r, find r = .error e := by
  induction pieces with
  | nil => cases h
  | cons piece rest ih =>
    cases piece with
    | plain chars =>
      unfold fillPieces at h
      rcases hr : fillPieces find rest with e' | text
      · simp only [hr, Except.error.injEq] at h
        exact ih (h ▸ hr)
      · simp [hr] at h
    | reference r chars =>
      unfold fillPieces at h
      rcases hf : find r with e' | found
      · simp only [hf, Except.error.injEq] at h
        exact ⟨r, h ▸ hf⟩
      · rcases hr : fillPieces find rest with e' | text
        · simp only [hf, hr, Except.error.injEq] at h
          exact ih (h ▸ hr)
        · simp [hf, hr] at h

theorem substitute_error {text : String} {bindings : Bindings} {e : Error}
    (h : substitute text bindings = .error e) : ∃ fault, e = .lookup fault := by
  unfold substitute at h
  rcases hf : fillPieces (fun r => (r.resolve bindings).map Value.splice) (pieces text) with d | cs
  · rw [hf] at h
    obtain ⟨r, hr⟩ := fillPieces_error hf
    rcases hv : r.resolve bindings with d' | value
    · rw [hv] at hr
      cases hr
      cases h
      exact Reference.resolve_error hv
    · rw [hv] at hr
      cases hr
  · rw [hf] at h
    cases h

end Template

theorem LookupFault.kind_ne_invalidRule (fault : LookupFault) : fault.kind ≠ .invalidRule := by
  cases fault <;> simp [kind]

section Formats

variable {f₁ f₂ : Formats} {bindings : Bindings} {rule : Rule}

theorem Statement.run_formats (s : Statement) (f₁ f₂ : Formats) (ctx : Context) :
    Alike Error.SameKind (fun x y => x.1 = y.1 ∧ x.2 = y.2) (s.run f₁ ctx).result
      (s.run f₂ ctx).result := by
  rw [result_run, result_run]
  -- the name of the statement only labels the error
  rcases s.execute ctx with ⟨e | outcome, after⟩
  · exact .error rfl
  · exact .ok ⟨rfl, rfl⟩

theorem Mapping.claim_formats (mapping : Mapping) (f₁ f₂ : Formats) (bindings : Bindings) :
    Alike Error.SameKind Eq (mapping.claim f₁ bindings) (mapping.claim f₂ bindings) := by
  refine mapItems_alike fun entry _ => ?_
  rcases entry.2.resolve bindings with e | value
  · exact .error rfl
  · exact .ok rfl

namespace Rule

/-- The mapping that a rule names; its own name is only needed to say that there is none. -/
def namedMapping (rule : Rule) (mappings : MappingTable) (ruleId : String) :
    Except Error Mapping :=
  match rule.mappingName with
  | none => .error (.rule (.noMapping ruleId))
  | some name =>
    match Entries.get? mappings name with
    | none => .error (.rule (.unknownMapping ruleId name))
    | some mapping => .ok mapping

theorem result_extractClaim_of_some {mapping : Mapping} (h : rule.mapping = some mapping)
    (formats : Formats) (mappings : MappingTable) (bindings : Bindings) :
    (rule.extractClaim formats mappings bindings).result = mapping.claim formats bindings := by
  simp only [extractClaim, findMapping, h, Traced.result_bind]
  rfl

theorem result_extractClaim_of_none (h : rule.mapping = none) (formats : Formats)
    (mappings : MappingTable) (bindings : Bindings) :
    (rule.extractClaim formats mappings bindings).result =
      formats.ruleId bindings >>= fun ruleId =>
        rule.namedMapping mappings ruleId >>= fun mapping => mapping.claim formats bindings := by
  simp only [extractClaim, findMapping, namedMapping, h, Traced.result_bind]
  rcases formats.ruleId bindings with e | ruleId
  · rfl
  rcases rule.mappingName with _ | name
  · rfl
  rcases hg : Entries.get? mappings name with _ | mapping
  · simp only [hg]
    rfl
  · simp only [hg]
    rfl

theorem namedMapping_alike (rule : Rule) (mappings : MappingTable) (id₁ id₂ : String) :
    Alike Error.SameKind Eq (rule.namedMapping mappings id₁) (rule.namedMapping mappings id₂) := by
  unfold namedMapping
  rcases rule.mappingName with _ | name
  · exact .error rfl
  rcases hg : Entries.get? mappings name with _ | mapping
  · simp only [hg]
    exact .error rfl
  · simp only [hg]
    exact .ok rfl

theorem extractClaim_formats
    (h : rule.mapping = none →
      Alike Error.SameKind (fun _ _ => True) (f₁.ruleId bindings) (f₂.ruleId bindings))
    (mappings : MappingTable) :
    Alike Error.SameKind Eq (rule.extractClaim f₁ mappings bindings).result
      (rule.extractClaim f₂ mappings bindings).result := by
  rcases hm : rule.mapping with _ | mapping
  · rw [result_extractClaim_of_none hm, result_extractClaim_of_none hm]
    refine (h hm).bind fun id₁ id₂ _ => ?_
    refine (rule.namedMapping_alike mappings id₁ id₂).bind ?_
    rintro mapping _ rfl
    exact mapping.claim_formats f₁ f₂ bindings
  · rw [result_extractClaim_of_some hm, result_extractClaim_of_some hm]
    exact mapping.claim_formats f₁ f₂ bindings

/-- Where only one of two names of a rule can be made, some table of mappings tells them apart: one in
which the rule finds an empty mapping, or any if it looks for none. -/
theorem exists_not_alike {id : String} {e : Error} (h : rule.mapping = none)
    (h₁ : f₁.ruleId bindings = .ok id) (h₂ : f₂.ruleId bindings = .error e) :
    ∃ mappings, ¬Alike Error.SameKind Eq (rule.extractClaim f₁ mappings bindings).result
      (rule.extractClaim f₂ mappings bindings).result := by
  have hr (mappings : MappingTable) :
      (rule.extractClaim f₂ mappings bindings).result = .error e := by
    rw [result_extractClaim_of_none h, h₂]
    rfl
  rcases hn : rule.mappingName with _ | name
  · refine ⟨[], ?_⟩
    have hl : (rule.extractClaim f₁ [] bindings).result = .error (.rule (.noMapping id)) := by
      rw [result_extractClaim_of_none h, h₁]
      simp only [namedMapping, hn]
      rfl
    obtain ⟨fault, rfl⟩ := Template.substitute_error h₂
    rw [hl, hr]
    rintro (_ | ⟨hk⟩)
    exact fault.kind_ne_invalidRule hk.symm
  · refine ⟨[(name, [])], ?_⟩
    have hl : (rule.extractClaim f₁ [(name, [])] bindings).result = .ok [] := by
      rw [result_extractClaim_of_none h, h₁]
      simp only [namedMapping, hn, Entries.get?]
      rfl
    rw [hl, hr]
    rintro ⟨⟩

/-- Two formats make no difference to the claim that a rule extracts, whatever the table of mappings
is, exactly if the rule has a mapping of its own or they make none to its name. -/
theorem extractClaim_formats_iff :
    (∀ mappings, Alike Error.SameKind Eq (rule.extractClaim f₁ mappings bindings).result
        (rule.extractClaim f₂ mappings bindings).result) ↔
      (rule.mapping = none →
        Alike Error.SameKind (fun _ _ => True) (f₁.ruleId bindings) (f₂.ruleId bindings)) := by
  constructor
  · intro h hm
    -- were only one of the names made, some table would tell the formats apart
    rcases h₁ : f₁.ruleId bindings with d | id₁ <;> rcases h₂ : f₂.ruleId bindings with e | id₂
    · have hnil := h []
      rw [result_extractClaim_of_none hm, result_extractClaim_of_none hm, h₁, h₂] at hnil
      cases hnil with
      | error hk => exact .error hk
    · obtain ⟨mappings, hne⟩ := exists_not_alike hm h₂ h₁
      exact absurd (h mappings).symm hne
    · obtain ⟨mappings, hne⟩ := exists_not_alike hm h₁ h₂
      exact absurd (h mappings) hne
    · exact .ok trivial
  · exact fun h mappings => extractClaim_formats h mappings

end Rule

theorem Rule.run_formats (rule : Rule) (f₁ f₂ : Formats) (ctx : Context) :
    Alike Error.SameKind (fun x y => x.1 = y.1 ∧ x.2 = y.2) (rule.run f₁ ctx).result
      (rule.run f₂ ctx).result := by
  let owning : Rule := { rule with mapping := some [] }
  have hl : Lockstep ⟨[owning], [], f₁⟩ ⟨[owning], [], f₂⟩ .null .null Error.SameKind Eq
      [owning] :=
    { success := fun h => h ▸ rfl
      start := fun _ _ _ _ => rfl
      enterBlock := fun _ h => h ▸ rfl
      enterStatement := fun _ h => h ▸ rfl
      run := by
        rintro _ _ s _ ctx _ rfl
        exact s.run_formats f₁ f₂ ctx
      noBlocks := rfl
      extractClaim := by
        rintro _ hr ctx _ rfl
        rw [List.mem_singleton] at hr
        subst hr
        exact extractClaim_formats (fun h => by cases h) [] }
  have hr : owning ∈ [owning] := List.mem_cons_self
  exact hl.rule hr rfl

/-- A rule that has succeeded, with the bindings that it has left. -/
structure Success where
  number : Nat
  rule : Rule
  bindings : Bindings

namespace Rule

def firstSuccess (formats : Formats) (assertion : Value) :
    Nat → Bool → List Rule → Traced (Option Success)
  | _, _, [] => pure none
  | number, success, rule :: rest => do
    let (outcome, ctx) ← rule.run formats (rule.start number assertion success)
    .report (.ruleFinished number outcome)
    match outcome with
    | .ruleSuccess => return some ⟨number, rule, ctx.bindings⟩
    | _ => firstSuccess formats assertion (number + 1) ctx.success rest

theorem firstSuccess_formats (f₁ f₂ : Formats) (assertion : Value) (number : Nat)
    (success : Bool) (rules : List Rule) :
    Alike Error.SameKind Eq (firstSuccess f₁ assertion number success rules).result
      (firstSuccess f₂ assertion number success rules).result := by
  induction rules generalizing number success with
  | nil => exact .ok rfl
  | cons rule rest ih =>
    unfold firstSuccess
    rw [Traced.result_bind, Traced.result_bind]
    refine (rule.run_formats f₁ f₂ _).bind ?_
    rintro ⟨outcome, ctx⟩ ⟨-, -⟩ ⟨rfl, rfl⟩
    cases outcome with
    | ruleSuccess => exact .ok rfl
    | _ => exact ih (number + 1) ctx.success

def winner (formats : Formats) (rules : List Rule) (assertion : Value) :
    Traced (Option Success) :=
  match assertion with
  | .map _ => do
    .report (.processing assertion)
    firstSuccess formats assertion 0 true rules
  | other => .fail (.rule (.assertionKind other.kind))

theorem winner_formats (f₁ f₂ : Formats) (rules : List Rule) (assertion : Value) :
    Alike Error.SameKind Eq (winner f₁ rules assertion).result
      (winner f₂ rules assertion).result := by
  cases assertion with
  | map entries => exact firstSuccess_formats f₁ f₂ (.map entries) 0 true rules
  | _ => exact .error rfl

end Rule

namespace RuleBook

def conclude (book : RuleBook) : Option Success → Traced (Option Claim)
  | none => do
    .report .noMatch
    return none
  | some winner => do
    let claim ← winner.rule.extractClaim book.formats book.mappings winner.bindings
    .report (.ruleMatched winner.number claim)
    return some claim

theorem tryFrom_eq_firstSuccess (book : RuleBook) (assertion : Value) (number : Nat)
    (success : Bool) (rules : List Rule) :
    book.tryFrom assertion number success rules =
      Rule.firstSuccess book.formats assertion number success rules >>= book.conclude := by
  induction rules generalizing number success with
  | nil => exact (pure_bind _ _).symm
  | cons rule rest ih =>
    rw [tryFrom, Rule.firstSuccess, bind_assoc]
    refine bind_congr fun p => ?_
    obtain ⟨outcome, ctx⟩ := p
    rw [bind_assoc]
    refine bind_congr fun _ => ?_
    cases outcome with
    | ruleSuccess => exact (pure_bind _ _).symm
    | _ => exact ih (number + 1) ctx.success

theorem evaluate_eq_winner (book : RuleBook) (assertion : Value) :
    book.evaluate assertion =
      Rule.winner book.formats book.rules assertion >>= book.conclude := by
  cases assertion with
  | map entries =>
    unfold evaluate Rule.winner
    rw [bind_assoc]
    exact bind_congr fun _ => book.tryFrom_eq_firstSuccess (.map entries) 0 true book.rules
  | _ => rfl

theorem result_conclude_some (book : RuleBook) (winner : Success) :
    (book.conclude (some winner)).result =
      (winner.rule.extractClaim book.formats book.mappings winner.bindings).result.map some := by
  unfold conclude
  rw [Traced.result_bind]
  rcases (winner.rule.extractClaim book.formats book.mappings winner.bindings).result <;> rfl

/-- Two formats make no difference to what rules answer, whatever the table of mappings is, exactly if
they make none to the name of a rule that succeeds without a mapping of its own: both names can be made,
or both fail with errors of the same class. -/
theorem evaluate_formats_iff (rules : List Rule) (f₁ f₂ : Formats) (assertion : Value) :
    (∀ mappings, Alike Error.SameKind Eq (evaluate ⟨rules, mappings, f₁⟩ assertion).result
        (evaluate ⟨rules, mappings, f₂⟩ assertion).result) ↔
      ∀ winner, (Rule.winner f₁ rules assertion).result = .ok (some winner) →
        winner.rule.mapping = none →
          Alike Error.SameKind (fun _ _ => True) (f₁.ruleId winner.bindings)
            (f₂.ruleId winner.bindings) := by
  simp only [evaluate_eq_winner, Traced.result_bind]
  obtain ⟨found, _, h₁, h₂, rfl⟩ | ⟨d, e, h₁, h₂, he⟩ :=
    (Rule.winner_formats f₁ f₂ rules assertion).elim
  · rw [h₁, h₂]
    rcases found with _ | winner
    · constructor
      · rintro - winner hw
        cases hw
      · exact fun _ _ => .ok rfl
    · have hc (mappings : MappingTable) (f : Formats) :
          (Except.ok (some winner) >>= fun found =>
              (conclude ⟨rules, mappings, f⟩ found).result) =
            (winner.rule.extractClaim f mappings winner.bindings).result.map some :=
        result_conclude_some ⟨rules, mappings, f⟩ winner
      simp only [hc, Alike.map_some_iff, Rule.extractClaim_formats_iff]
      constructor
      · rintro h _ ⟨⟩
        exact h
      · exact fun h => h winner rfl
  · rw [h₁, h₂]
    constructor
    · rintro - winner hw
      cases hw
    · exact fun _ _ => .error he

/-- A rule that names an empty mapping yields the empty claim under the initial formats, and fails if
its own name is to hold an unbound variable. -/
theorem evaluate_formats_unbound :
    let rule : Rule := ⟨none, some [], none, some "m"⟩
    let book (formats : Formats) : RuleBook := ⟨[rule], [("m", [])], formats⟩
    let unbound : Formats := ⟨"$nobody", Formats.initial.statement⟩
    ((book .initial).evaluate (.map [])).result = .ok (some []) ∧
      ((book unbound).evaluate (.map [])).result = .error (.lookup (.unbound "nobody")) ∧
        ¬Alike Error.SameKind Eq ((book .initial).evaluate (.map [])).result
          ((book unbound).evaluate (.map [])).result := by
  intro rule book unbound
  let start : Bindings := Bindings.forRule 0 "" (.map [])
  have hbook (formats : Formats) : ((book formats).evaluate (.map [])).result =
      formats.ruleId start >>= fun _ => .ok (some []) := by
    have hm : rule.mapping = none := rfl
    have hc := Rule.result_extractClaim_of_none hm formats [("m", [])] start
    rw [evaluate_eq_winner, Traced.result_bind]
    change (conclude (book formats) (some ⟨0, rule, start⟩)).result = _
    rw [result_conclude_some]
    refine (congrArg (Except.map some) hc).trans ?_
    rcases formats.ruleId start with e | id <;> rfl
  have hi : ((book .initial).evaluate (.map [])).result = .ok (some []) := by
    have hid : (Formats.initial.ruleId start).isOk = true := by decide +kernel
    rw [hbook]
    rcases hr : Formats.initial.ruleId start with e | id
    · rw [hr] at hid
      cases hid
    · rfl
  have hu : ((book unbound).evaluate (.map [])).result = .error (.lookup (.unbound "nobody")) := by
    have hp : Template.pieces "$nobody" = [.reference ⟨"nobody", none⟩ "$nobody".toList] := by
      decide +kernel
    rw [hbook]
    change (Template.substitute "$nobody" start >>= _) = _
    unfold Template.substitute
    rw [hp]
    rfl
  refine ⟨hi, hu, ?_⟩
  rw [hi, hu]
  rintro ⟨⟩

end RuleBook

end Formats
end ClaimRules
