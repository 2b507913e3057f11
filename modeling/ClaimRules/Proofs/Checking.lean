import Mathlib.Algebra.GroupWithZero.Nat
import ClaimRules.CommandLine.Run
import ClaimRules.Proofs.Causes

/-! Checking a rule file. The check looks at the statements in the order of the document; where it finds
that each of them names a verb, no evaluation of the rules comes to a statement that does not. -/

namespace ClaimRules

namespace Error

def cause : Error → Error
  | .inItem _ e => e.cause
  | .inStatement _ _ e => e.cause
  | .inMapping _ _ _ e => e.cause
  | e => e

variable {e : Error}

def SparesVerbs (e : Error) : Prop := ¬e.cause.OfVerb

theorem sparesVerbs_of_later (h : e.OfOperands ∨ e.OfWrites) : e.SparesVerbs := by
  cases e with
  | lookup fault => exact id
  | statement fault => cases fault <;> first | exact id | exact absurd h (not_or.2 ⟨id, id⟩)
  | _ => exact absurd h (not_or.2 ⟨id, id⟩)

theorem SparesVerbs.ne (h : e.SparesVerbs) (s : Statement) : s.verb ≠ .error e.cause :=
  fun hv => h (s.failsAs_verb _ hv)

end Error

def Statement.NamesVerb (s : Statement) : Prop :=
  ∃ name, s.items[0]? = some (.string name) ∧ ∃ verb : Verb, Unicode.lowerText name = verb.name

theorem Statement.namesVerb_iff {s : Statement} : s.NamesVerb ↔ ∃ verb, s.verb = .ok verb := by
  constructor
  · rintro ⟨name, hi, verb, hn⟩
    exact ⟨verb, verb_eq_ok_iff.2 ⟨name, hi, hn⟩⟩
  · rintro ⟨verb, hv⟩
    obtain ⟨name, hi, hn⟩ := verb_eq_ok_iff.1 hv
    exact ⟨name, hi, verb, hn⟩

theorem FailsAs.alike {α : Type} {P : Error → Prop} {R : α → α → Prop} {x : Except Error α}
    (h : FailsAs P x) (hR : ∀ a, R a a) : Alike (fun d _ => P d) R x x := by
  rcases x with e | a
  · exact .error (h e rfl)
  · exact .ok (hR a)

theorem Alike.failsAs {α : Type} {P : Error → Prop} {R : α → α → Prop} {x y : Except Error α}
    (h : Alike (fun d _ => P d) R x y) : FailsAs P x := by
  cases h with
  | ok _ => exact .ok _
  | error h => exact .error h

theorem failsAs_mapItems {α β : Type} {P : Error → Prop} {f : α → Except Error β} {items : List α}
    (h : ∀ item, FailsAs P (f item)) : FailsAs P (mapItems f items) := by
  induction items with
  | nil => exact .ok []
  | cons item rest ih =>
    unfold mapItems
    rcases hf : f item with e | a
    · exact .error (h item e hf)
    rcases hr : mapItems f rest with e | as
    · exact .error (ih e hr)
    · exact .ok (a :: as)

theorem Statement.NamesVerb.failsAs_run {s : Statement} (hs : s.NamesVerb) (formats : Formats)
    (ctx : Context) : FailsAs Error.SparesVerbs (s.run formats ctx).result := by
  obtain ⟨verb, hverb⟩ := namesVerb_iff.1 hs
  rw [result_run]
  rcases hexecute : s.execute ctx with ⟨e | outcome, after⟩
  · have herror : (s.execute ctx).1 = .error e := congrArg Prod.fst hexecute
    have hspares : e.SparesVerbs := by
      cases failure_of_execute herror with
      | verb hv _ =>
        rw [hverb] at hv
        cases hv
      | operands _ _ he => exact Error.sparesVerbs_of_later (.inl he)
      | writes _ _ _ he => exact Error.sparesVerbs_of_later (.inr he)
    exact .error hspares
  · exact .ok (outcome, after)

theorem Formats.failsAs_ruleId (formats : Formats) (bindings : Bindings) :
    FailsAs Error.SparesVerbs (formats.ruleId bindings) := by
  intro e h
  have hsubstitute : e.OfOperands := Template.failsAs_substitute formats.rule bindings e h
  exact Error.sparesVerbs_of_later (.inl hsubstitute)

theorem Mapping.failsAs_claim (mapping : Mapping) (formats : Formats) (bindings : Bindings) :
    FailsAs Error.SparesVerbs (mapping.claim formats bindings) := by
  refine failsAs_mapItems fun entry => ?_
  split
  · exact .ok _
  · next e he =>
    have hoperand : e.OfOperands := entry.2.failsAs_resolve bindings e he
    have hspares : e.SparesVerbs := Error.sparesVerbs_of_later (.inl hoperand)
    exact .error hspares

theorem Rule.failsAs_extractClaim (rule : Rule) (formats : Formats) (mappings : MappingTable)
    (bindings : Bindings) :
    FailsAs Error.SparesVerbs (rule.extractClaim formats mappings bindings).result := by
  rcases hm : rule.mapping with _ | mapping
  · rw [result_extractClaim_of_none hm]
    refine (formats.failsAs_ruleId bindings).bind fun ruleId => ?_
    refine FailsAs.bind ?_ fun mapping => mapping.failsAs_claim formats bindings
    unfold namedMapping
    split
    · exact .error id
    · split
      · exact .error id
      · exact .ok _
  · rw [result_extractClaim_of_some hm]
    exact mapping.failsAs_claim formats bindings

namespace RuleBook

variable {book : RuleBook}

theorem failsAs_evaluate (h : ∀ rule ∈ book.rules, ∀ s ∈ rule.statements, s.NamesVerb)
    (assertion : Value) : FailsAs Error.SparesVerbs (book.evaluate assertion).result := by
  -- the evaluation runs beside itself, so that only single statements and claims are left
  have hl : Lockstep book book assertion assertion (fun d _ => d.SparesVerbs) Eq book.rules :=
    { success := fun h => h ▸ rfl
      start := fun _ _ _ _ => rfl
      enterBlock := fun _ h => h ▸ rfl
      enterStatement := fun _ h => h ▸ rfl
      run := by
        rintro rule hr s hs c _ rfl
        exact ((h rule hr s hs).failsAs_run book.formats c).alike fun _ => ⟨rfl, rfl⟩
      noBlocks := id
      extractClaim := by
        rintro rule - c _ rfl
        exact (rule.failsAs_extractClaim book.formats book.mappings c.bindings).alike fun _ => rfl }
  unfold evaluate
  split
  · rw [Traced.result_bind]
    exact (hl.tryFrom 0 true).failsAs
  · exact .error id

theorem failsAs_evaluateText (h : ∀ rule ∈ book.rules, ∀ s ∈ rule.statements, s.NamesVerb)
    (text : String) : FailsAs Error.SparesVerbs (book.evaluateText text).result := by
  unfold evaluateText
  simp only [Traced.result_bind, Traced.result_ofExcept]
  refine FailsAs.bind ?_ fun doc => FailsAs.bind ?_ fun assertion => failsAs_evaluate h assertion
  · unfold Json.ofText
    split
    · exact .ok _
    · exact .error id
  · unfold Value.load
    split
    · exact .ok _
    · exact .error id

end RuleBook

theorem Document.text_ofText (text : String) : (ofText text).text = .ok text := by
  have hvalid : text.toByteArray.IsValidUTF8 := text.isValidUTF8
  simp only [ofText, Document.text, String.toUTF8_eq_toByteArray, String.fromUTF8?, hvalid, dite_true]
  rfl

theorem Rule.loadFile_ofText (text : String) : loadFile (.ofText text) = loadText text := by
  simp only [loadFile, Document.text_ofText, bind, Except.bind]

def Rule.blockCount (rule : Rule) : Nat := rule.blocks.elim 0 List.length

def Rule.statementCount (rule : Rule) : Nat :=
  rule.blocks.elim 0 fun blocks => (blocks.map List.length).sum

namespace CommandLine

variable {rules : List Rule} {statements : List Statement} {doc : Document}

theorem flatten_blocksOf (rules : List Rule) :
    (blocksOf rules).flatten = rules.flatMap Rule.statements := by
  rw [blocksOf, List.flatMap_def, List.flatten_flatten, List.map_map, List.flatMap_def]
  rfl

theorem length_blocksOf (rules : List Rule) :
    (blocksOf rules).length = (rules.map Rule.blockCount).sum := by
  rw [blocksOf, List.length_flatMap]
  congr 1
  refine List.map_congr_left fun rule _ => ?_
  unfold Rule.blockCount
  cases rule.blocks <;> rfl

theorem length_statements (rules : List Rule) :
    (rules.flatMap Rule.statements).length = (rules.map Rule.statementCount).sum := by
  rw [List.length_flatMap]
  congr 1
  refine List.map_congr_left fun rule _ => ?_
  unfold Rule.statements Rule.statementCount
  rw [List.length_flatten]
  cases rule.blocks <;> rfl

def unknownVerb? : Except Error Unit → Option String
  | .error (.statement (.unknownVerb name)) => some name
  | _ => none

theorem unknownVerb?_eq_some_iff {checked : Except Error Unit} {name : String} :
    unknownVerb? checked = some name ↔ checked = .error (.statement (.unknownVerb name)) := by
  unfold unknownVerb?
  split <;> simp_all

theorem checkStatements_eq_ok_iff :
    checkStatements statements = .ok () ↔ ∀ s ∈ statements, s.NamesVerb := by
  induction statements with
  | nil => simp [checkStatements]
  | cons s rest ih =>
    rw [List.forall_mem_cons, ← ih, Statement.namesVerb_iff, checkStatements]
    rcases s.verb with e | verb <;> simp

theorem exists_of_checkStatements_error {e : Error} (h : checkStatements statements = .error e) :
    ∃ before s after, statements = before ++ s :: after ∧ (∀ t ∈ before, t.NamesVerb) ∧
      s.verb = .error e := by
  induction statements with
  | nil => cases h
  | cons s rest ih =>
    unfold checkStatements at h
    rcases hs : s.verb with d | verb
    · rw [hs] at h
      cases h
      exact ⟨[], s, rest, rfl, fun _ ht => absurd ht List.not_mem_nil, hs⟩
    · rw [hs] at h
      obtain ⟨before, t, after, rfl, hbefore, ht⟩ := ih h
      have hnames : s.NamesVerb := Statement.namesVerb_iff.2 ⟨verb, hs⟩
      exact ⟨s :: before, t, after, rfl, List.forall_mem_cons.2 ⟨hnames, hbefore⟩, ht⟩

theorem check_of_loaded (h : Rule.loadFile doc = .ok rules) :
    check doc =
      match checkStatements (rules.flatMap Rule.statements) with
      | .ok () => .ok ⟨rules.length, (rules.map Rule.blockCount).sum,
          (rules.map Rule.statementCount).sum⟩
      | .error e => .error (.evaluation e) := by
  unfold check
  simp only [h, evaluating, flatten_blocksOf, length_blocksOf, length_statements, bind, Except.bind]
  rcases checkStatements (rules.flatMap Rule.statements) with e | _ <;> rfl

theorem of_check {summary : Summary} (h : Rule.loadFile doc = .ok rules)
    (hcheck : check doc = .ok summary) :
    (∀ s ∈ rules.flatMap Rule.statements, s.NamesVerb) ∧
      summary = ⟨rules.length, (rules.map Rule.blockCount).sum,
        (rules.map Rule.statementCount).sum⟩ := by
  rw [check_of_loaded h] at hcheck
  rcases hs : checkStatements (rules.flatMap Rule.statements) with e | _
  · rw [hs] at hcheck
    cases hcheck
  · rw [hs] at hcheck
    cases hcheck
    exact ⟨checkStatements_eq_ok_iff.1 hs, rfl⟩

theorem check_of_fault {e : Error} (h : Rule.loadFile doc = .error e) :
    check doc = .error (.evaluation e) := by
  unfold check
  rw [h]
  rfl

theorem forall_statements_iff {P : Statement → Prop} :
    (∀ s ∈ rules.flatMap Rule.statements, P s) ↔
      ∀ rule ∈ rules, ∀ blocks, rule.blocks = some blocks → ∀ block ∈ blocks, ∀ s ∈ block, P s := by
  constructor
  · intro h rule hr blocks hb block hm s hs
    have hstatement : s ∈ rule.statements := by
      rw [Rule.statements, hb]
      exact List.mem_flatten.2 ⟨block, hm, hs⟩
    exact h s (List.mem_flatMap.2 ⟨rule, hr, hstatement⟩)
  · intro h s hs
    obtain ⟨rule, hr, hstatement⟩ := List.mem_flatMap.1 hs
    obtain ⟨block, hm, hs⟩ := List.mem_flatten.1 hstatement
    rcases hb : rule.blocks with _ | blocks
    · rw [hb] at hm
      cases hm
    · rw [hb] at hm
      exact h rule hr blocks hb block hm s hs

/-- A rule file passes the check if it loads and each statement in each block of its rules names a verb;
then the rules, their blocks and their statements are counted. If only a verb is missing, it is the first
such statement of the document that is reported. A file that passes never lets an evaluation fail for
want of a verb, whatever is evaluated. -/
theorem check_agrees (doc : Document) :
    ((∃ summary, check doc = .ok summary) ↔
      ∃ rules, Rule.loadFile doc = .ok rules ∧ ∀ rule ∈ rules, ∀ blocks, rule.blocks = some blocks →
        ∀ block ∈ blocks, ∀ s ∈ block, s.NamesVerb) ∧
    (∀ rules summary, Rule.loadFile doc = .ok rules → check doc = .ok summary →
      summary.rules = rules.length ∧ summary.blocks = (rules.map Rule.blockCount).sum ∧
        summary.statements = (rules.map Rule.statementCount).sum) ∧
    (∀ rules failure, Rule.loadFile doc = .ok rules → check doc = .error failure →
      ∃ before s after e, rules.flatMap Rule.statements = before ++ s :: after ∧
        (∀ t ∈ before, t.NamesVerb) ∧ s.verb = .error e ∧ failure = .evaluation e) ∧
    ∀ rules summary, Rule.loadFile doc = .ok rules → check doc = .ok summary →
      ∀ mappings formats,
        (∀ assertion e, (RuleBook.evaluate ⟨rules, mappings, formats⟩ assertion).result = .error e →
          ∀ s : Statement, s.verb ≠ .error e.cause) ∧
        ∀ text e, (RuleBook.evaluateText ⟨rules, mappings, formats⟩ text).result = .error e →
          ∀ s : Statement, s.verb ≠ .error e.cause := by
  refine ⟨⟨?_, ?_⟩, ?_, ?_, ?_⟩
  · rintro ⟨summary, hcheck⟩
    rcases hload : Rule.loadFile doc with e | rules
    · rw [check_of_fault hload] at hcheck
      cases hcheck
    · exact ⟨rules, rfl, forall_statements_iff.1 (of_check hload hcheck).1⟩
  · rintro ⟨rules, hload, hnames⟩
    have hstatements := checkStatements_eq_ok_iff.2 (forall_statements_iff.2 hnames)
    rw [check_of_loaded hload, hstatements]
    exact ⟨_, rfl⟩
  · intro rules summary hload hcheck
    obtain ⟨-, rfl⟩ := of_check hload hcheck
    exact ⟨rfl, rfl, rfl⟩
  · intro rules failure hload hcheck
    rw [check_of_loaded hload] at hcheck
    rcases hs : checkStatements (rules.flatMap Rule.statements) with e | _
    · rw [hs] at hcheck
      cases hcheck
      obtain ⟨before, s, after, hsplit, hbefore, hverb⟩ := exists_of_checkStatements_error hs
      exact ⟨before, s, after, e, hsplit, hbefore, hverb, rfl⟩
    · rw [hs] at hcheck
      cases hcheck
  · intro rules summary hload hcheck mappings formats
    have hnames : ∀ rule ∈ rules, ∀ s ∈ rule.statements, s.NamesVerb := fun rule hr s hs =>
      (of_check hload hcheck).1 s (List.mem_flatMap.2 ⟨rule, hr, hs⟩)
    let book : RuleBook := ⟨rules, mappings, formats⟩
    exact ⟨fun assertion e he => (book.failsAs_evaluate hnames assertion e he).ne,
      fun text e he => (book.failsAs_evaluateText hnames text e he).ne⟩

theorem check_agrees_unknown :
    let good := "[\x7b\"statement_blocks\":[[[\"SET\",\"$a\",1]," ++
      "[\"exit\",\"rule_fails\",\"always\"]],[]]\x7d,\x7b\"mapping\":\x7b\x7d\x7d]"
    let bad := "[\x7b\x7d,\x7b\"statement_blocks\":[[[\"set\",\"$a\",1]]," ++
      "[[\"Set\"],[\"frob\"],[7]]]\x7d]"
    (∃ rules, Rule.loadFile (.ofText good) = .ok rules ∧ check (.ofText good) = .ok ⟨2, 2, 2⟩ ∧
      ∀ e, (RuleBook.evaluate ⟨rules, [], .initial⟩ (.map [])).result = .error e →
        ∀ s : Statement, s.verb ≠ .error e.cause) ∧
    ∃ rules before s after, Rule.loadFile (.ofText bad) = .ok rules ∧
      rules.flatMap Rule.statements = before ++ s :: after ∧ (∀ t ∈ before, t.NamesVerb) ∧
      s.verb = .error (.statement (.unknownVerb "frob")) ∧
      check (.ofText bad) = .error (.evaluation (.statement (.unknownVerb "frob"))) := by
  intro good bad
  obtain ⟨hpasses, hcounts, -, hruns⟩ := check_agrees (.ofText good)
  obtain ⟨-, -, hfirst, -⟩ := check_agrees (.ofText bad)
  have hgood : (Rule.loadText good).toOption.map (fun rules =>
      ((checkStatements (rules.flatMap Rule.statements)).toOption, rules.length,
        (rules.map Rule.blockCount).sum, (rules.map Rule.statementCount).sum)) =
        some (some (), 2, 2, 2) := by
    decide +kernel
  have hbad : (Rule.loadText bad).toOption.map (fun rules =>
      unknownVerb? (checkStatements (rules.flatMap Rule.statements))) = some (some "frob") := by
    decide +kernel
  clear_value good bad
  rw [← Rule.loadFile_ofText] at hgood hbad
  constructor
  · rcases hload : Rule.loadFile (.ofText good) with e | rules
    · rw [hload] at hgood
      cases hgood
    simp only [hload, Except.toOption, Option.map_some, Option.some.injEq, Prod.mk.injEq] at hgood
    obtain ⟨hchecked, hrules, hblocks, hstatements⟩ := hgood
    rcases hc : checkStatements (rules.flatMap Rule.statements) with e | _
    · rw [hc] at hchecked
      cases hchecked
    have hnames := forall_statements_iff.1 (checkStatements_eq_ok_iff.1 hc)
    obtain ⟨⟨r, b, s⟩, hcheck⟩ := hpasses.2 ⟨rules, hload, hnames⟩
    obtain ⟨hr, hb, hs⟩ := hcounts rules _ hload hcheck
    cases hr.trans hrules
    cases hb.trans hblocks
    cases hs.trans hstatements
    obtain ⟨hevaluate, -⟩ := hruns rules _ hload hcheck [] .initial
    exact ⟨rules, rfl, hcheck, hevaluate (.map [])⟩
  · rcases hload : Rule.loadFile (.ofText bad) with e | rules
    · rw [hload] at hbad
      cases hbad
    simp only [hload, Except.toOption, Option.map_some, Option.some.injEq] at hbad
    have hchecked := unknownVerb?_eq_some_iff.1 hbad
    have hcheck : check (.ofText bad) =
        .error (.evaluation (.statement (.unknownVerb "frob"))) := by
      rw [check_of_loaded hload, hchecked]
    obtain ⟨before, s, after, e, hsplit, hbefore, hverb, hfailure⟩ := hfirst rules _ hload hcheck
    cases hfailure
    exact ⟨rules, before, s, after, rfl, hsplit, hbefore, hverb, hcheck⟩

end CommandLine
end ClaimRules
