import ClaimRules.Proofs.Lockstep
import ClaimRules.Proofs.References

/-! Attributes of the assertion that a program does not name have no influence on what it answers. Two
evaluations whose assertions agree under the named keys are compared step by step: their bindings
differ at no time except in other entries of the assertion. -/

namespace ClaimRules

namespace Bindings

/-- Bindings that differ at most in entries of the assertion under keys that are not named. -/
structure AgreeOn (named : String → Prop) (b₁ b₂ : Bindings) : Prop where
  other : ∀ name, name ≠ assertionName → Entries.get? b₁ name = Entries.get? b₂ name
  assertion : ∃ m₁ m₂, Entries.get? b₁ assertionName = some (.map m₁) ∧
    Entries.get? b₂ assertionName = some (.map m₂) ∧
    ∀ key, named key → Entries.get? m₁ key = Entries.get? m₂ key

namespace AgreeOn

variable {named : String → Prop} {b₁ b₂ : Bindings}

theorem bind (h : AgreeOn named b₁ b₂) {name : String} (hn : name ≠ assertionName)
    (value : Value) : AgreeOn named (b₁.bind name value) (b₂.bind name value) where
  other other ho := by
    by_cases hk : other = name
    · subst hk
      simp only [Bindings.bind, Entries.get?_insert_self]
    · simp only [Bindings.bind, Entries.get?_insert_of_ne hk, h.other other ho]
  assertion := by
    simpa only [Bindings.bind, Entries.get?_insert_of_ne hn.symm] using h.assertion

theorem bindEntry (h : AgreeOn named b₁ b₂) {m₁ m₂ : Entries Value}
    (hm : ∀ key, named key → Entries.get? m₁ key = Entries.get? m₂ key) (key : String)
    (value : Value) :
    AgreeOn named (b₁.bind assertionName (.map (Entries.insert key value m₁)))
      (b₂.bind assertionName (.map (Entries.insert key value m₂))) where
  other other ho := by
    simp only [Bindings.bind, Entries.get?_insert_of_ne ho, h.other other ho]
  assertion := by
    refine ⟨_, _, Entries.get?_insert_self .., Entries.get?_insert_self .., fun k hk => ?_⟩
    by_cases he : k = key
    · subst he
      simp only [Entries.get?_insert_self]
    · simp only [Entries.get?_insert_of_ne he, hm k hk]

end AgreeOn
end Bindings

namespace Reference

/-- A reference that takes nothing from the assertion except an entry under a named key. -/
def Within (named : String → Prop) (r : Reference) : Prop :=
  r.name = Bindings.assertionName → ∃ key, r.index = some key ∧ named key

variable {named : String → Prop} {r : Reference} {b₁ b₂ : Bindings}

theorem map_value_place (r : Reference) (bindings : Bindings) :
    (r.place bindings).map Place.value = r.resolve bindings := by
  unfold place resolve
  rcases Entries.get? bindings r.name with _ | value
  · rfl
  · rcases r.index with _ | index
    · rfl
    · cases value with
      | array items => simp only; split <;> simp_all [Except.map]
      | map entries => simp only; split <;> simp_all [Except.map]
      | _ => rfl

theorem place_agree (h : Bindings.AgreeOn named b₁ b₂) (hr : r.Within named) :
    Alike Eq (fun p q => p.value = q.value ∧ ∀ v, Bindings.AgreeOn named (p.put v) (q.put v))
      (r.place b₁) (r.place b₂) := by
  unfold place
  by_cases hn : r.name = Bindings.assertionName
  -- the two maps are changed under the one key that the reference names
  · obtain ⟨m₁, m₂, h₁, h₂, hm⟩ := h.assertion
    obtain ⟨key, hi, hk⟩ := hr hn
    simp only [hn, h₁, h₂, hi, hm key hk]
    cases Entries.get? m₂ key with
    | none => exact .error rfl
    | some item => exact .ok ⟨rfl, fun v => h.bindEntry hm key v⟩
  · rw [h.other r.name hn]
    rcases Entries.get? b₂ r.name with _ | value
    · exact .error rfl
    · rcases r.index with _ | index
      · exact .ok ⟨rfl, fun v => h.bind hn v⟩
      · cases value with
        | array items =>
          rcases hp : position r.name index items.length with e | i
          · simp only [hp]
            exact .error rfl
          · simp only [hp]
            exact .ok ⟨rfl, fun v => h.bind hn _⟩
        | map entries =>
          rcases hg : Entries.get? entries index with _ | item
          · simp only [hg]
            exact .error rfl
          · simp only [hg]
            exact .ok ⟨rfl, fun v => h.bind hn _⟩
        | _ => exact .error rfl

theorem resolve_agree (h : Bindings.AgreeOn named b₁ b₂) (hr : r.Within named) :
    r.resolve b₁ = r.resolve b₂ := by
  rw [← map_value_place, ← map_value_place]
  obtain ⟨p₁, p₂, h₁, h₂, hv, -⟩ | ⟨e, _, h₁, h₂, rfl⟩ := (place_agree h hr).elim
  · simp only [h₁, h₂, Except.map, hv]
  · simp only [h₁, h₂]

theorem assign_agree (h : Bindings.AgreeOn named b₁ b₂) (hr : r.Within named) (value : Value) :
    (r.assign value b₁).1 = (r.assign value b₂).1 ∧
      Bindings.AgreeOn named (r.assign value b₁).2 (r.assign value b₂).2 := by
  unfold assign
  rcases hi : r.index with _ | index
  · have hn : r.name ≠ Bindings.assertionName := by
      intro hn
      obtain ⟨key, hk, -⟩ := hr hn
      simp [hi] at hk
    exact ⟨rfl, h.bind hn value⟩
  · obtain ⟨p₁, p₂, h₁, h₂, -, hp⟩ | ⟨e, _, h₁, h₂, rfl⟩ := (place_agree h hr).elim
    · simp only [h₁, h₂]
      exact ⟨trivial, hp value⟩
    · simp only [h₁, h₂]
      exact ⟨trivial, h⟩

end Reference

def Context.AgreeOn (named : String → Prop) (c d : Context) : Prop :=
  Bindings.AgreeOn named c.bindings d.bindings ∧ c.success = d.success

section Statements

variable {named : String → Prop} {c d : Context}

theorem Effect.apply_agree {effect : Effect} (h : c.AgreeOn named d)
    (ht : ∀ r, effect.target? = some r → r.Within named) :
    (effect.apply c).1 = (effect.apply d).1 ∧
      (effect.apply c).2.AgreeOn named (effect.apply d).2 := by
  obtain ⟨hb, hs⟩ := h
  cases effect with
  | store target value =>
    obtain ⟨he, ha⟩ := Reference.assign_agree hb (ht target rfl) value
    unfold apply
    rcases h₁ : target.assign value c.bindings with ⟨r₁, b₁⟩
    rcases h₂ : target.assign value d.bindings with ⟨r₂, b₂⟩
    simp only [h₁, h₂] at he ha ⊢
    subst he
    cases r₁ with
    | error e => exact ⟨rfl, ha, hs⟩
    | ok u => exact ⟨rfl, ha, rfl⟩
  | push target item =>
    obtain ⟨p₁, p₂, h₁, h₂, hv, hp⟩ | ⟨e, _, h₁, h₂, rfl⟩ :=
      (Reference.place_agree hb (ht target rfl)).elim
    · simp only [apply, h₁, h₂, hv]
      cases p₂.value with
      | array items => exact ⟨rfl, hp _, rfl⟩
      | _ => exact ⟨rfl, hb, hs⟩
    · simp only [apply, h₁, h₂]
      exact ⟨trivial, hb, hs⟩
  | test result => exact ⟨rfl, hb, rfl⟩
  | search matched groups named =>
    exact ⟨rfl, (hb.bind (by decide) _).bind (by decide) _, rfl⟩
  | flow outcome => exact ⟨rfl, hb, hs⟩

theorem Statement.execute_agree {s : Statement} (h : c.AgreeOn named d)
    (hr : ∀ r ∈ s.references, r.Within named) :
    (s.execute c).1 = (s.execute d).1 ∧ (s.execute c).2.AgreeOn named (s.execute d).2 := by
  -- both contexts give the statement the same effect, even where they differ
  have he : s.effect c = s.effect d :=
    effect_congr h.2 fun r hm => Reference.resolve_agree h.1 (hr r hm)
  unfold execute
  rw [← he]
  rcases hc : s.effect c with e | effect
  · exact ⟨rfl, h⟩
  · exact Effect.apply_agree h fun r ht => hr r (target?_mem_references hc ht)

end Statements

def Mapping.references (mapping : Mapping) : List Reference :=
  mapping.flatMap fun entry => entry.2.references

def Rule.references (rule : Rule) : List Reference :=
  rule.statements.flatMap Statement.references ++ (rule.mapping.map Mapping.references).getD []

/-- All references of a program: in its statements and templates, and in its mappings. -/
def RuleBook.references (book : RuleBook) : List Reference :=
  book.rules.flatMap Rule.references ++
    book.mappings.flatMap fun entry => Mapping.references entry.2

def Formats.references (formats : Formats) : List Reference :=
  Template.references formats.rule ++ Template.references formats.statement

namespace Formats

variable {formats : Formats} {b₁ b₂ : Bindings}

theorem ruleId_congr (h : ∀ r ∈ formats.references, r.resolve b₁ = r.resolve b₂) :
    formats.ruleId b₁ = formats.ruleId b₂ :=
  Template.substitute_congr fun r hr => h r (List.mem_append_left _ hr)

theorem describeRule_congr (h : ∀ r ∈ formats.references, r.resolve b₁ = r.resolve b₂) :
    formats.describeRule b₁ = formats.describeRule b₂ := by
  simp only [describeRule, ruleId_congr h]

theorem describeStatement_congr (h : ∀ r ∈ formats.references, r.resolve b₁ = r.resolve b₂) :
    formats.describeStatement b₁ = formats.describeStatement b₂ := by
  have hs : formats.statementId b₁ = formats.statementId b₂ :=
    Template.substitute_congr fun r hr => h r (List.mem_append_right _ hr)
  simp only [describeStatement, hs]

theorem within_initial {named : String → Prop} : ∀ r ∈ initial.references, r.Within named := by
  intro r hr hn
  have h : ∀ r ∈ initial.references, r.name ≠ Bindings.assertionName := by decide +kernel
  exact absurd hn (h r hr)

end Formats

theorem mapItems_congr {α β ε : Type} {f g : α → Except ε β} {items : List α}
    (h : ∀ item ∈ items, f item = g item) : mapItems f items = mapItems g items := by
  induction items with
  | nil => rfl
  | cons item rest ih =>
    simp only [mapItems, h item List.mem_cons_self,
      ih fun item hi => h item (List.mem_cons_of_mem _ hi)]

theorem Mapping.claim_congr {mapping : Mapping} {formats : Formats} {b₁ b₂ : Bindings}
    (hf : ∀ r ∈ formats.references, r.resolve b₁ = r.resolve b₂)
    (h : ∀ r ∈ mapping.references, r.resolve b₁ = r.resolve b₂) :
    mapping.claim formats b₁ = mapping.claim formats b₂ := by
  refine mapItems_congr fun entry he => ?_
  have ho : entry.2.resolve b₁ = entry.2.resolve b₂ :=
    Operand.resolve_congr fun r hr => h r (List.mem_flatMap.2 ⟨entry, he, hr⟩)
  simp only [ho, Formats.describeRule_congr hf]

namespace Rule

variable {rule : Rule} {formats : Formats} {mappings : MappingTable} {b₁ b₂ : Bindings}

theorem findMapping_eq_ok {mapping : Mapping}
    (h : (rule.findMapping formats mappings b₁).result = .ok mapping) :
    rule.mapping = some mapping ∨ ∃ name, (name, mapping) ∈ mappings := by
  unfold findMapping at h
  rcases hm : rule.mapping with _ | inline
  · right
    simp only [hm, Traced.result_bind, bind_eq_ok_iff] at h
    obtain ⟨ruleId, -, h⟩ := h
    rcases hn : rule.mappingName with _ | name
    · simp [hn] at h
    · rcases hg : Entries.get? mappings name with _ | found
      · simp [hn, hg] at h
      · simp only [hn, hg, Traced.result_bind] at h
        cases h
        exact ⟨name, Entries.mem_of_get? hg⟩
  · left
    simp only [hm] at h
    cases h
    rfl

theorem extractClaim_congr (hf : ∀ r ∈ formats.references, r.resolve b₁ = r.resolve b₂)
    (hr : ∀ r ∈ rule.references, r.resolve b₁ = r.resolve b₂)
    (hm : ∀ entry ∈ mappings, ∀ r ∈ Mapping.references entry.2, r.resolve b₁ = r.resolve b₂) :
    (rule.extractClaim formats mappings b₁).result =
      (rule.extractClaim formats mappings b₂).result := by
  have hfind : rule.findMapping formats mappings b₁ = rule.findMapping formats mappings b₂ := by
    simp only [findMapping, Formats.ruleId_congr hf]
  unfold extractClaim
  rw [Traced.result_bind, Traced.result_bind, ← hfind]
  rcases h : (rule.findMapping formats mappings b₁).result with e | mapping
  · rfl
  · refine Mapping.claim_congr hf fun r hmem => ?_
    rcases findMapping_eq_ok h with hi | ⟨name, ht⟩
    · refine hr r (List.mem_append_right _ ?_)
      simpa only [hi, Option.map_some, Option.getD_some] using hmem
    · exact hm _ ht r hmem

end Rule

theorem Bindings.forRule_agree {named : String → Prop} {m₁ m₂ : Entries Value}
    (hm : ∀ key, named key → Entries.get? m₁ key = Entries.get? m₂ key) (number : Nat)
    (name : String) :
    AgreeOn named (forRule number name (.map m₁)) (forRule number name (.map m₂)) where
  other other ho := by
    simp only [forRule, Entries.get?, ho.symm, if_false]
  assertion := by
    refine ⟨m₁, m₂, ?_, ?_, hm⟩ <;>
      simp [forRule, Entries.get?, ruleNumberName, ruleNameName, assertionName]

namespace RuleBook

theorem lockstep_of_agree {book : RuleBook} {named : String → Prop} {m₁ m₂ : Entries Value}
    (hf : ∀ r ∈ book.formats.references, r.Within named)
    (hr : ∀ r ∈ book.references, r.Within named)
    (hm : ∀ key, named key → Entries.get? m₁ key = Entries.get? m₂ key) :
    Lockstep book book (.map m₁) (.map m₂) Eq (Context.AgreeOn named) book.rules where
  success h := h.2
  start rule _ number success := ⟨Bindings.forRule_agree hm number _, rfl⟩
  enterBlock number h := ⟨(h.1.bind (by decide) _).bind (by decide) _, h.2⟩
  enterStatement number h := ⟨h.1.bind (by decide) _, h.2⟩
  noBlocks := rfl
  run rule hrule s hs c d h := by
    have hwithin : ∀ r ∈ s.references, r.Within named := fun r hm =>
      hr r (List.mem_append_left _ (List.mem_flatMap.2 ⟨rule, hrule,
        List.mem_append_left _ (List.mem_flatMap.2 ⟨s, hs, hm⟩)⟩))
    obtain ⟨he, ha⟩ := Statement.execute_agree h hwithin
    rw [Statement.result_run, Statement.result_run]
    rcases h₁ : s.execute c with ⟨r₁, c'⟩
    rcases h₂ : s.execute d with ⟨r₂, d'⟩
    simp only [h₁, h₂] at he ha
    subst he
    cases r₁ with
    | ok outcome => exact .ok ⟨rfl, ha⟩
    | error e =>
      -- an error carries the name of the statement, which is made from the bindings
      refine .error ?_
      rw [Formats.describeStatement_congr fun r hm => Reference.resolve_agree ha.1 (hf r hm)]
  extractClaim rule hrule c d h := by
    rw [Rule.extractClaim_congr (fun r hm => Reference.resolve_agree h.1 (hf r hm))
      (fun r hm => Reference.resolve_agree h.1
        (hr r (List.mem_append_left _ (List.mem_flatMap.2 ⟨rule, hrule, hm⟩))))
      (fun entry he r hm => Reference.resolve_agree h.1
        (hr r (List.mem_append_right _ (List.mem_flatMap.2 ⟨entry, he, hm⟩))))]
    exact .refl (fun _ => rfl) (fun _ => rfl) _

/-- A program that takes from the assertion only entries under keys answers the same, be it a claim,
no match or an error, for all assertions that have the same entries under these keys. -/
theorem evaluate_noninterference {book : RuleBook} (hf : book.formats = .initial)
    (hbare : ⟨Bindings.assertionName, none⟩ ∉ book.references) {m₁ m₂ : Entries Value}
    (hagree : ∀ key, ⟨Bindings.assertionName, some key⟩ ∈ book.references →
      Entries.get? m₁ key = Entries.get? m₂ key) :
    (book.evaluate (.map m₁)).result = (book.evaluate (.map m₂)).result := by
  have hr : ∀ r ∈ book.references,
      r.Within fun key => ⟨Bindings.assertionName, some key⟩ ∈ book.references := by
    rintro ⟨name, _ | key⟩ hm rfl
    · exact absurd hm hbare
    · exact ⟨key, rfl, hm⟩
  have hl := lockstep_of_agree (hf ▸ Formats.within_initial) hr hagree
  exact (hl.tryFrom 0 true).eq

theorem evaluate_noninterference_user :
    let s₁ : Statement := ⟨[.string "set", .string "$assertion[user]", .string "bob"]⟩
    let s₂ : Statement :=
      ⟨[.string "interpolate", .string "$greeting", .string "hi $\x7bassertion[user]\x7d"]⟩
    let rule : Rule := ⟨none, some [[s₁, s₂]], some [("mail", .reference ⟨"assertion", some "mail"⟩)],
      none⟩
    let book : RuleBook := ⟨[rule], [], .initial⟩
    (book.evaluate (.map [("user", .string "al"), ("age", .integer 7)])).result =
      (book.evaluate (.map [("id", .null), ("user", .string "al")])).result := by
  intro s₁ s₂ rule book
  have h : book.references = [⟨"assertion", some "user"⟩, ⟨"greeting", none⟩,
      ⟨"assertion", some "user"⟩, ⟨"assertion", some "mail"⟩] := by decide +kernel
  refine evaluate_noninterference rfl ?_ fun key hk => ?_
  · rw [h]
    decide
  · rw [h] at hk
    simp [Bindings.assertionName] at hk
    rcases hk with rfl | rfl <;> rfl

end RuleBook
end ClaimRules
