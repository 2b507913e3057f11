import ClaimRules.Proofs.VerbEffects

/-! What statements write. An effect binds a few variables anew and sets the success flag or leaves it,
and that is all that a statement does to its context. -/

namespace ClaimRules

theorem Entries.exists_keys_insert {α : Type} (key : String) (value : α) (entries : Entries α) :
    ∃ new, keys (insert key value entries) = keys entries ++ new := by
  rw [keys_insert]
  by_cases h : key ∈ keys entries
  · exact ⟨[], by rw [if_pos h, List.append_nil]⟩
  · exact ⟨[key], if_neg h⟩

namespace Bindings

def bindAll (bindings : Bindings) (writes : List (String × Value)) : Bindings :=
  writes.foldl (fun bindings write => bindings.bind write.1 write.2) bindings

variable {name : String} {writes : List (String × Value)}

theorem exists_keys_bindAll (bindings : Bindings) (writes : List (String × Value)) :
    ∃ new, Entries.keys (bindings.bindAll writes) = Entries.keys bindings ++ new := by
  induction writes generalizing bindings with
  | nil => exact ⟨[], (List.append_nil _).symm⟩
  | cons write rest ih =>
    obtain ⟨first, hf⟩ := Entries.exists_keys_insert write.1 write.2 bindings
    obtain ⟨later, hl⟩ := ih (bindings.bind write.1 write.2)
    exact ⟨first ++ later, hl.trans (by rw [bind, hf, List.append_assoc])⟩

theorem get?_bindAll_of_not_mem (h : name ∉ writes.map Prod.fst) (bindings : Bindings) :
    Entries.get? (bindings.bindAll writes) name = Entries.get? bindings name := by
  induction writes generalizing bindings with
  | nil => rfl
  | cons write rest ih =>
    rw [List.map_cons, List.mem_cons, not_or] at h
    exact (ih h.2 _).trans (Entries.get?_insert_of_ne h.1 _ _)

theorem get?_bindAll_of_mem (h : name ∈ writes.map Prod.fst) (b₁ b₂ : Bindings) :
    Entries.get? (b₁.bindAll writes) name = Entries.get? (b₂.bindAll writes) name := by
  induction writes generalizing b₁ b₂ with
  | nil => cases h
  | cons write rest ih =>
    by_cases hr : name ∈ rest.map Prod.fst
    · exact ih hr _ _
    · have hn : name = write.1 := by
        rw [List.map_cons, List.mem_cons] at h
        exact h.resolve_right hr
      have hb (b : Bindings) :
          Entries.get? (b.bindAll (write :: rest)) name = some write.2 := by
        refine (get?_bindAll_of_not_mem hr (b.bind write.1 write.2)).trans ?_
        rw [hn]
        exact Entries.get?_insert_self ..
      rw [hb, hb]

end Bindings

/-- An item of a value, with the way to put another one in its place. -/
structure Slot where
  value : Value
  put : Value → Value

namespace Reference

/-- The item of a value that the index of a reference leads to; without an index it is the whole
value. -/
def slot (r : Reference) (base : Value) : Except Error Slot :=
  match r.index with
  | none => .ok ⟨base, id⟩
  | some index =>
    match base with
    | .array items =>
      match position r.name index items.length with
      | .ok i => .ok ⟨items.get i, fun item => .array (items.set i item)⟩
      | .error e => .error e
    | .map entries =>
      match Entries.get? entries index with
      | some item => .ok ⟨item, fun item => .map (Entries.insert index item entries)⟩
      | none => .error (.lookup (.missingKey r.name index))
    | other => .error (.lookup (.notIndexable r.name index other.kind))

def slotIn (r : Reference) (bindings : Bindings) : Except Error Slot :=
  match Entries.get? bindings r.name with
  | none => .error (.lookup (.unbound r.name))
  | some base => r.slot base

theorem place_eq_slotIn (r : Reference) (bindings : Bindings) :
    r.place bindings = (r.slotIn bindings).map fun slot =>
      ⟨slot.value, fun value => bindings.bind r.name (slot.put value)⟩ := by
  unfold place slotIn
  rcases Entries.get? bindings r.name with _ | base
  · rfl
  unfold slot
  rcases r.index with _ | index
  · rfl
  cases base with
  | array items =>
    rcases hp : position r.name index items.length with e | i
    · simp only [hp]
      rfl
    · simp only [hp]
      rfl
  | map entries =>
    rcases hg : Entries.get? entries index with _ | item
    · simp only [hg]
      rfl
    · simp only [hg]
      rfl
  | _ => rfl

end Reference

namespace Effect

def writes (effect : Effect) (bindings : Bindings) : Except Error (List (String × Value)) :=
  match effect with
  | .store target value =>
    match target.index with
    | none => .ok [(target.name, value)]
    | some _ => (target.slotIn bindings).map fun slot => [(target.name, slot.put value)]
  | .push target item => do
    let slot ← target.slotIn bindings
    match slot.value with
    | .array items => return [(target.name, slot.put (.array (items ++ [item])))]
    | other => throw (.statement (.appendTarget other.kind))
  | .search _ groups named =>
    .ok [(Bindings.regexpArrayName, .array groups), (Bindings.regexpMapName, .map named)]
  | .test _ => .ok []
  | .flow _ => .ok []

def written : Effect → List String
  | .store target _ => [target.name]
  | .push target _ => [target.name]
  | .search _ _ _ => [Bindings.regexpArrayName, Bindings.regexpMapName]
  | _ => []

def outcome : Effect → Outcome
  | .flow outcome => outcome
  | _ => .statementContinue

def flag? : Effect → Option Bool
  | .store _ _ => some true
  | .push _ _ => some true
  | .test result => some result
  | .search matched _ _ => some matched
  | .flow _ => none

variable {effect : Effect} {bindings : Bindings} {writes : List (String × Value)}

/-- All that an effect does: it either fails and changes nothing, or binds what it writes and sets its
flag. -/
theorem apply_eq (effect : Effect) (ctx : Context) :
    effect.apply ctx =
      match effect.writes ctx.bindings with
      | .ok writes =>
        (.ok effect.outcome, ⟨ctx.bindings.bindAll writes, effect.flag?.getD ctx.success⟩)
      | .error e => (.error e, ctx) := by
  cases effect with
  | store target value =>
    simp only [apply, Effect.writes, Reference.assign, Reference.place_eq_slotIn]
    rcases target.index with _ | index
    · rfl
    · rcases target.slotIn ctx.bindings with e | slot <;> rfl
  | push target item =>
    simp only [apply, Effect.writes, Reference.place_eq_slotIn]
    rcases target.slotIn ctx.bindings with e | ⟨value, put⟩
    · rfl
    · cases value <;> rfl
  | _ => rfl

theorem names_of_writes (h : effect.writes bindings = .ok writes) :
    writes.map Prod.fst = effect.written := by
  cases effect with
  | store target value =>
    unfold Effect.writes at h
    rcases hi : target.index with _ | index
    · simp only [hi] at h
      cases h
      rfl
    · simp only [hi] at h
      rcases hs : target.slotIn bindings with e | slot
      · simp [hs, Except.map] at h
      · rw [hs] at h
        cases h
        rfl
  | push target item =>
    unfold Effect.writes at h
    obtain ⟨⟨value, put⟩, -, h⟩ := bind_eq_ok_iff.1 h
    cases value <;> cases h
    rfl
  | _ =>
    cases h
    rfl

end Effect

/-- What a verb does: it changes a variable, tests values, searches a text or directs the rule. -/
inductive Role where
  | change
  | test
  | search
  | control
  deriving DecidableEq, Repr

def Verb.role : Verb → Role
  | .set | .length | .interpolate | .append | .unique | .split | .join | .lower | .upper
  | .regexpReplace => .change
  | .member | .notMember | .compare => .test
  | .regexp => .search
  | .exit | .skip => .control

def Effect.role : Effect → Role
  | .store _ _ => .change
  | .push _ _ => .change
  | .test _ => .test
  | .search _ _ _ => .search
  | .flow _ => .control

namespace Statement

variable {s : Statement} {ctx after : Context} {effect : Effect} {outcome : Outcome}

theorem role_searchEffect (re : Regex) (text : List Char) :
    (searchEffect re text).role = .search := by
  unfold searchEffect
  split <;> rfl

theorem role_of_verbEffect {verb : Verb} (h : s.verbEffect verb ctx = .ok effect) :
    effect.role = verb.role := by
  cases verb with
  | set =>
    obtain ⟨_, _, _, _, rfl⟩ := set_iff.1 h
    rfl
  | length =>
    obtain ⟨_, _, _, _, _, _, rfl⟩ := length_iff.1 h
    rfl
  | interpolate =>
    obtain ⟨_, _, _, _, _, _, rfl⟩ := interpolate_iff.1 h
    rfl
  | append =>
    obtain ⟨_, _, _, _, _, _, rfl⟩ := append_iff.1 h
    rfl
  | unique =>
    obtain ⟨_, _, _, _, rfl⟩ := unique_iff.1 h
    rfl
  | split =>
    obtain ⟨_, _, _, _, _, _, _, _, rfl⟩ := split_iff.1 h
    rfl
  | join =>
    obtain ⟨_, _, _, _, _, _, rfl⟩ := join_iff.1 h
    rfl
  | lower | upper =>
    obtain ⟨_, _, _, _, _, _, rfl⟩ := foldCase_iff.1 h
    rfl
  | regexpReplace =>
    obtain ⟨_, _, _, _, _, _, _, _, _, _, rfl⟩ := regexpReplace_iff.1 h
    rfl
  | member | notMember =>
    obtain ⟨_, _, _, _, _, _, rfl⟩ := membership_iff.1 h
    rfl
  | compare =>
    obtain ⟨_, _, _, _, _, _, _, _, _, rfl⟩ := compare_iff.1 h
    rfl
  | regexp =>
    obtain ⟨_, _, _, _, re, _, rfl⟩ := regexp_iff.1 h
    exact role_searchEffect re _
  | exit =>
    obtain ⟨_, _, _, _, _, _, rfl⟩ := exit_iff.1 h
    rfl
  | skip =>
    obtain ⟨_, _, rfl⟩ := skip_iff.1 h
    rfl

theorem effect_eq_ok_iff :
    s.effect ctx = .ok effect ↔ ∃ verb, s.verb = .ok verb ∧ s.verbEffect verb ctx = .ok effect :=
  bind_eq_ok_iff

theorem effect_of_verb {verb : Verb} (hv : s.verb = .ok verb) :
    s.effect ctx = s.verbEffect verb ctx := by
  rw [Statement.effect, hv]
  rfl

theorem execute_eq_ok_iff :
    s.execute ctx = (.ok outcome, after) ↔
      ∃ effect writes, s.effect ctx = .ok effect ∧ effect.writes ctx.bindings = .ok writes ∧
        effect.outcome = outcome ∧
          ⟨ctx.bindings.bindAll writes, effect.flag?.getD ctx.success⟩ = after := by
  unfold execute
  rcases s.effect ctx with e | effect
  · simp
  · simp only [Effect.apply_eq, Except.ok.injEq, exists_and_left, exists_eq_left']
    rcases effect.writes ctx.bindings with e | writes
    · simp
    · simp

end Statement
end ClaimRules
